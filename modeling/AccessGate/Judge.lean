import AccessGate.Decision
import AccessGate.Http.MediaType

/-!
Answers about access without forwarding anything: about a request that somebody describes, or about
the very call as if it had been made one path segment further down.
-/

namespace AccessGate

open Json
open Json.Reader

/-- A request that somebody else received. -/
structure JudgeQuery where
  method : String
  url : String
  token : Option String
  context : Members
  deriving Inhabited

namespace JudgeQuery

def reader : Reader :=
  record "JudgeRequest"
    [.required "method" string,
     .required "url" string,
     .withDefault "token" (maybe string) .null,
     .withDefault "context" members (.object [])]

def ofMembers (m : Members) : JudgeQuery :=
  ⟨m.text "method", m.text "url", m.text? "token", m.inner "context"⟩

def decode (node : Node) : Except ReadError JudgeQuery :=
  (reader node).map fun value => ofMembers (value.members?.getD [])

/-- The caller's address: the one that the query tells, else the one of the call. -/
def remoteIp (query : JudgeQuery) (incoming : Http.Incoming) : Option String :=
  (query.context.text? Evaluation.remoteIpKey).or
    (Request.remoteIpOf incoming.headers incoming.peer)

def request (query : JudgeQuery) (incoming : Http.Incoming) : Except Denial Request :=
  match Http.Method.ofAnyCase? query.method with
  | none => .error (.badRequest ("invalid method \x60" ++ query.method ++ "\x60"))
  | some method =>
      match Url.parse query.url.toList with
      | .error e =>
          .error (.badRequest ("invalid url \x60" ++ query.url ++ "\x60: " ++ e.message))
      | .ok url =>
          let plain := Request.ofUrl method url
          let addressed := match Request.rawAuthority? query.url.toList with
            | some authority => { plain with authority := authority }
            | none => plain
          let shown := match query.token with
            | some token => addressed.withToken token
            | none => addressed
          .ok { shown with remoteIp := query.remoteIp incoming, context := query.context }

end JudgeQuery

namespace Judge

def sessionValue (session : Session) : Value :=
  .object [("subject", .string session.subject), ("anonymous", .bool session.isAnonymous)]

def answer : Except Denial (Session × Option Token) → Http.Response
  | .error denial => denial.response
  | .ok (session, none) => .json 200 (sessionValue session)
  | .ok (session, some token) =>
      match credentialField? token.render with
      | .ok value =>
          let response := Http.Response.json 200 (sessionValue session)
          { response with headers := response.headers.insert "authorization" value }
      | .error denial => denial.response

def verdict (arbiter : Arbiter σ) (request : Request) : KeyAction σ Http.Response := do
  return answer (← arbiter.decide request)

def verdictOn (arbiter : Arbiter σ) : Except Denial Request → KeyAction σ Http.Response
  | .error denial => pure denial.response
  | .ok request => verdict arbiter request

/-! ## Described requests -/

def maxBody : Nat := 2 * 1024 * 1024

def unparsable (reason : String) : Http.Response :=
  .plain 400 ("Failed to parse the request body as JSON: " ++ reason)

def refusal (e : ReadError) : Http.Response :=
  if e.isSyntax then unparsable e.messageWithPath
  else
    .plain 422 ("Failed to deserialize the JSON body into the target type: " ++ e.messageWithPath)

def queryOf (incoming : Http.Incoming) : Except Http.Response JudgeQuery :=
  if Http.MediaType.isJson incoming.headers = false then
    .error (.plain 415 "Expected request with \x60Content-Type: application/json\x60")
  else if incoming.body.length > maxBody then
    .error (.plain 413 "Failed to buffer the request body: length limit exceeded")
  else match Utf8.decode? incoming.body with
    | none => .error (unparsable "invalid unicode code point")
    | some cs => ((Document.ofChars cs).read JudgeQuery.decode).mapError refusal

def described (arbiter : Arbiter σ) (incoming : Http.Incoming) : KeyAction σ Http.Response :=
  match queryOf incoming with
  | .error response => pure response
  | .ok query => verdictOn arbiter (query.request incoming)

/-! ## The call itself -/

def path : List Char := "/judge".toList

/-- The target without that path in front, just as it was written. -/
def innerText (target : Http.Target) : List Char :=
  let below := (Text.afterStart? path target.path).getD target.path
  let inner := if below.head? = some '/' then below else ['/']
  inner ++ Http.Target.queryText target.query?

def innerTarget (target : Http.Target) : Except Denial Http.Target :=
  match Http.Target.parse (innerText target) with
  | .ok target => .ok target
  | .error e => .error (.badRequest e.message)

def innerRequest (incoming : Http.Incoming) : Except Denial Request :=
  match innerTarget incoming.target with
  | .error denial => .error denial
  | .ok target => Request.ofHttp incoming.method target incoming.headers incoming.peer

def itself (arbiter : Arbiter σ) (incoming : Http.Incoming) : KeyAction σ Http.Response :=
  verdictOn arbiter (innerRequest incoming)

end Judge

end AccessGate
