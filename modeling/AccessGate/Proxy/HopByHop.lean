import AccessGate.Http.Field

/-!
Header fields that are for one connection only, and the chain of addresses a request came by.
-/

namespace AccessGate.Proxy

open Text (trim pieces)
open Http (Headers)

def hopByHop : List String :=
  ["connection", "keep-alive", "proxy-authenticate", "proxy-authorization", "proxy-connection",
   "te", "trailer", "transfer-encoding", "upgrade"]

def listedIn (value : List Char) : List String :=
  (pieces ',' value).filterMap fun piece => Http.fieldName? (trim piece)

def listed (headers : Headers) : List String :=
  (headers.getAll "connection").flatMap fun value => ((Http.textual? value).map listedIn).getD []

def isConnectionScoped (headers : Headers) (name : String) : Bool :=
  hopByHop.contains name || (listed headers).contains name

def endToEnd (headers : Headers) : Headers :=
  headers.filter fun field => !isConnectionScoped headers field.1

/-- Adds an address to the chain. Only the first field counts, and only if it is textual and not
blank. -/
def withForwardedFor (headers : Headers) (address : List Char) : Headers :=
  let chain := match headers.text? "x-forwarded-for" with
    | some prior => if Text.isBlankText prior then address else prior ++ ", ".toList ++ address
    | none => address
  headers.insert "x-forwarded-for" (Utf8.encode chain)

end AccessGate.Proxy
