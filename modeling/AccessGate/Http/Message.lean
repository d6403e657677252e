import AccessGate.Http.Method
import AccessGate.Http.Target
import AccessGate.Json.Printer
import AccessGate.Json.Reader
import AccessGate.Net.Address
import AccessGate.Url.Basic

/-!
Requests that come in, requests that are sent to other services, and responses.
-/

namespace AccessGate.Http

/-- A request as a listener received it, and from where. -/
structure Incoming where
  method : Method
  target : Target
  headers : Headers
  peer : Option Net.SocketAddress
  body : Octets
  deriving Inhabited

structure Outgoing where
  method : Method
  url : Url
  headers : Headers
  body : Octets
  deriving Inhabited

structure Response where
  status : Nat
  headers : Headers
  body : Octets
  deriving DecidableEq, Repr, Inhabited

namespace Response

def jsonType : Octets := Utf8.encode "application/json".toList

def json (status : Nat) (value : Json.Value) : Response :=
  ⟨status, [("content-type", jsonType)], Utf8.encode value.chars⟩

def plainType : Octets := Utf8.encode "text/plain; charset=utf-8".toList

def plain (status : Nat) (text : String) : Response :=
  ⟨status, [("content-type", plainType)], Utf8.encode text.toList⟩

def empty (status : Nat) : Response := ⟨status, [], []⟩

def decode? (decode : Json.Node → Except Json.ReadError α) (response : Response) : Option α :=
  (Utf8.decode? response.body).bind fun cs => ((Json.Document.ofChars cs).read decode).toOption

end Response

end AccessGate.Http
