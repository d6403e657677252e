import AccessGate.Environment
import AccessGate.Http.Target
import AccessGate.Text.Base64
import AccessGate.Url.Parser

/-!
Sending requests. A request is built first, which fails for a URL that cannot be asked; user
information in the URL becomes a header. A client may follow redirects.
-/

namespace AccessGate.Http

inductive SendError where
  | malformed
  | unsupported (url : List Char)
  | noAnswer (url : List Char)
  | redirectLoop (url : List Char)
  deriving DecidableEq, Repr

namespace SendError

def about (what : String) (url : List Char) : String :=
  what ++ " for url (" ++ String.ofList url ++ ")"

def message : SendError → String
  | malformed => "builder error"
  | unsupported url => about "builder error" url
  | noAnswer url => about "error sending request" url
  | redirectLoop url => about "error following redirect" url

end SendError

namespace Outgoing

def undecodable : String := "error decoding response body"

def basicValue (url : Url) : Octets :=
  let plain := Percent.decode url.username ++ [0x3A] ++ Percent.decode url.password
  Utf8.encode ("Basic ".toList ++ Base64.encode plain)

def ofText (method : Method) (text : String) : Except SendError Outgoing :=
  match Url.parse text.toList with
  | .error _ => .error .malformed
  | .ok url =>
      if url.hostText.isEmpty then .error (.unsupported url.render)
      else
        let bare := { url with username := [], password := [] }
        let headers := if url.userInfo.isEmpty then [] else [("authorization", basicValue url)]
        .ok ⟨method, bare, headers, []⟩

def withHeader (name : String) (value : Octets) (request : Outgoing) : Except SendError Outgoing :=
  match fieldValue? value with
  | some value => .ok { request with headers := request.headers.append name value }
  | none => .error .malformed

def withBearer (token : String) (request : Outgoing) : Except SendError Outgoing :=
  request.withHeader "authorization" (Utf8.encode ("Bearer " ++ token).toList)

/-- The given fields take the place of those of the same names. -/
def withHeaders (headers : Headers) (request : Outgoing) : Outgoing :=
  let kept := request.headers.filter fun field => !headers.contains field.1
  { request with headers := kept ++ headers }

def withBody (type : String) (body : Octets) (request : Outgoing) : Outgoing :=
  { request with
    headers := request.headers.append "content-type" (Utf8.encode type.toList), body := body }

def withJson (value : Json.Value) (request : Outgoing) : Outgoing :=
  request.withBody "application/json" (Utf8.encode value.chars)

def withForm (pairs : List (List Char × List Char)) (request : Outgoing) : Outgoing :=
  request.withBody "application/x-www-form-urlencoded" (Utf8.encode (Form.render pairs))

def completed (request : Outgoing) : Outgoing :=
  if request.headers.contains "accept" then request
  else { request with headers := request.headers.append "accept" (Utf8.encode "*/*".toList) }

def isAskable (url : Url) : Bool :=
  (url.scheme == "http".toList || url.scheme == "https".toList) &&
    match Target.parse url.render with
    | .ok _ => true
    | .error _ => false

end Outgoing

def sendOnce (env : Environment σ) (request : Outgoing) :
    Action σ (Except SendError Response) := do
  if Outgoing.isAskable request.url then
    match ← env.send request.completed with
    | some response => pure (.ok response)
    | none => pure (.error (.noAnswer request.url.render))
  else pure (.error (.unsupported request.url.render))

def directory (path : List Char) : List Char := (path.reverse.dropWhile (· != '/')).reverse

def resolve (base : Url) (reference : List Char) : Option Url :=
  let origin := base.scheme ++ "://".toList ++ base.userInfo ++ base.authority
  let text := match reference with
    | '/' :: '/' :: _ => base.scheme ++ ':' :: reference
    | '/' :: _ => origin ++ reference
    | '?' :: _ => origin ++ base.path ++ reference
    | '#' :: _ => origin ++ base.path ++ Url.marked '?' base.query ++ reference
    | [] => origin ++ base.path ++ Url.marked '?' base.query
    | _ => origin ++ directory base.path ++ reference
  match Url.parse reference with
  | .ok url => some url
  | .error _ => (Url.parse text).toOption

/-- What another host than the one that was asked is not told. -/
def confidentialFields : List String :=
  ["authorization", "cookie", "proxy-authorization", "www-authenticate"]

def bodyFields : List String :=
  ["content-type", "content-length", "transfer-encoding", "content-encoding"]

namespace Outgoing

def withoutFields (names : List String) (request : Outgoing) : Outgoing :=
  { request with headers := request.headers.filter fun field => !(names.contains field.1) }

def movedTo (url : Url) (request : Outgoing) : Outgoing :=
  let isSameHost := url.scheme == request.url.scheme && url.host == request.url.host &&
    url.port == request.url.port
  let told := if isSameHost then request else request.withoutFields confidentialFields
  { told with url := url }

def asking (request : Outgoing) : Outgoing :=
  if request.method = .get ∨ request.method = .head then request
  else { request.withoutFields bodyFields with method := .get, body := [] }

end Outgoing

/-- Where a response sends the client next. Only some statuses keep method and body. -/
def redirected (request : Outgoing) (response : Response) : Option Outgoing :=
  let target := (response.headers.text? "location").bind (resolve request.url)
  let moved := target.map fun url => request.movedTo url
  if response.status = 307 ∨ response.status = 308 then moved
  else if response.status = 301 ∨ response.status = 302 ∨ response.status = 303 then
    moved.map Outgoing.asking
  else none

def maxRedirects : Nat := 10

def follow (env : Environment σ) : Nat → Outgoing → Action σ (Except SendError Response)
  | left, request => do
      match ← sendOnce env request with
      | .error e => pure (.error e)
      | .ok response =>
          match redirected request response with
          | none => pure (.ok response)
          | some next =>
              match left with
              | 0 => pure (.error (.redirectLoop next.url.render))
              | left + 1 => follow env left next

def fetch (env : Environment σ) (request : Except SendError Outgoing) :
    Action σ (Except SendError Response) :=
  match request with
  | .error e => pure (.error e)
  | .ok request => follow env maxRedirects request

end AccessGate.Http
