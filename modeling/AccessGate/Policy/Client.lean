import AccessGate.Diagnostic
import AccessGate.Http.Client
import AccessGate.Policy.Wire

/-!
The policy service: a token is introspected with a form, an access query is sent as JSON.
-/

namespace AccessGate

open Json

inductive PolicyError where
  | notConfigured (setting : String)
  | unreachable (reason : String)
  | badStatus (status : Nat)
  | undecodable (reason : String)
  deriving DecidableEq, Repr

namespace PolicyError

def message : PolicyError → String
  | notConfigured setting => "Policy service is not configured: " ++ setting
  | unreachable reason => "Policy service unreachable: " ++ reason
  | badStatus status => "Policy service answered with status " ++ toString status
  | undecodable reason => "Policy service response could not be decoded: " ++ reason

def diagnostic : PolicyError → Diagnostic
  | notConfigured _ => .plain "policy::not_configured"
  | unreachable _ => .plain "policy::transport"
  | badStatus _ => .plain "policy::status"
  | undecodable _ => .plain "policy::decode"

end PolicyError

/-- A policy service, whatever is behind it. -/
structure PolicyClient (σ : Type) where
  introspect : String → Action σ (Except PolicyError Introspection)
  authorize : AccessQuery → Action σ (Except PolicyError Authorization)

namespace PolicyClient

/-- Where a policy service is found over HTTP, and what it is shown. -/
structure Endpoints where
  introspectionUrl : Option String
  authorizationUrl : Option String
  serviceToken : Option String
  deriving DecidableEq, Repr

def authenticated (endpoints : Endpoints) (request : Http.Outgoing) :
    Except Http.SendError Http.Outgoing :=
  match endpoints.serviceToken with
  | some token => request.withBearer token
  | none => .ok request

/-- Only an answer with status 200 and a body of the right kind counts. -/
def decodeAnswer (decode : Node → Except ReadError α) (response : Http.Response) :
    Except PolicyError α :=
  if response.status = 200 then
    match response.decode? decode with
    | some answer => .ok answer
    | none => .error (.undecodable Http.Outgoing.undecodable)
  else .error (.badStatus response.status)

def ask (env : Environment σ) (decode : Node → Except ReadError α)
    (request : Except Http.SendError Http.Outgoing) : Action σ (Except PolicyError α) := do
  match ← Http.fetch env request with
  | .ok response => pure (decodeAnswer decode response)
  | .error e => pure (.error (.unreachable e.message))

def tokenForm (token : String) : List (List Char × List Char) :=
  [("token".toList, token.toList)]

def overHttp (env : Environment σ) (endpoints : Endpoints) : PolicyClient σ where
  introspect token :=
    match endpoints.introspectionUrl with
    | none => pure (.error (.notConfigured "policy.introspection_url"))
    | some url =>
        ask env Introspection.decode do
          let request ← Http.Outgoing.ofText .post url
          authenticated endpoints (request.withForm (tokenForm token))
  authorize query :=
    match endpoints.authorizationUrl with
    | none => pure (.error (.notConfigured "policy.authorization_url"))
    | some url =>
        ask env Authorization.decode do
          let request ← Http.Outgoing.ofText .post url
          authenticated endpoints (request.withJson query.toJson)

end PolicyClient

end AccessGate
