import AccessGate.Decision
import AccessGate.Http.Client
import AccessGate.Proxy.Backend
import AccessGate.Proxy.HopByHop

/-!
The two phases of the proxy. First a request gets its verdict, and an allowed one its new target;
then it is sent to the backend, if the verdict says so.
-/

namespace AccessGate.Proxy

inductive Verdict where
  | allowed (credential : Option String)
  | denied (denial : Denial)
  deriving DecidableEq, Repr, Inhabited

def credential (arbiter : Arbiter σ) (request : Except Denial Request) :
    KeyAction σ (Except Denial (Option String)) :=
  match request with
  | .error denial => pure (.error denial)
  | .ok request => do
      return (← arbiter.decide request).map fun decision => decision.2.map Token.render

/-- The target that a request has from now on, and its verdict; only an allowed request gets
another target. -/
def direct (arbiter : Arbiter σ) (backend : Url) (incoming : Http.Incoming) :
    KeyAction σ (Http.Target × Verdict) := do
  let request := Request.ofHttp incoming.method incoming.target incoming.headers incoming.peer
  match ← credential arbiter request with
  | .error denial => pure (incoming.target, .denied denial)
  | .ok credential =>
      match backendTarget backend incoming.target with
      | .ok target => pure (target, .allowed credential)
      | .error denial => pure (incoming.target, .denied denial)

def maxBody : Nat := 10 * 1024 * 1024

def forwardedHeaders (incoming : Http.Incoming) (credential : Option String) :
    Except Denial Http.Headers := do
  let headers := (endToEnd incoming.headers).erase "host"
  let headers ← match credential with
    | some token => (credentialField? token).map fun value => headers.insert "authorization" value
    | none => pure headers
  match incoming.peer with
  | some peer => pure (withForwardedFor headers peer.address.render)
  | none => pure headers

def outgoing (target : Http.Target) (incoming : Http.Incoming) (credential : Option String) :
    Except Denial Http.Outgoing := do
  let headers ← forwardedHeaders incoming credential
  if incoming.body.length > maxBody then
    .error (.badRequest "unable to read request body: length limit exceeded")
  else match Http.Outgoing.ofText incoming.method (String.ofList target.render) with
    | .ok request => pure { request.withHeaders headers with body := incoming.body }
    | .error e => .error (.backendFailure e.message)

def returned (response : Http.Response) : Http.Response :=
  { response with headers := endToEnd response.headers }

def forward (env : Environment σ) (target : Http.Target) (incoming : Http.Incoming)
    (credential : Option String) : Action σ (Except Denial Http.Response) :=
  match outgoing target incoming credential with
  | .error denial => pure (.error denial)
  | .ok request => do
      match ← Http.sendOnce env request with
      | .ok response => pure (.ok (returned response))
      | .error e => pure (.error (.backendFailure e.message))

/-- Carries out a verdict. A request without one goes nowhere. -/
def roundTrip (env : Environment σ) (target : Http.Target) (incoming : Http.Incoming)
    (verdict : Option Verdict) : Action σ Http.Response :=
  match verdict with
  | some (.allowed credential) => do
      match ← forward env target incoming credential with
      | .ok response => pure response
      | .error denial => pure denial.response
  | some (.denied denial) => pure denial.response
  | none => pure Denial.undecided.response

def handle (arbiter : Arbiter σ) (backend : Url) (incoming : Http.Incoming) :
    KeyAction σ Http.Response := do
  let directed ← direct arbiter backend incoming
  roundTrip arbiter.env directed.1 incoming (some directed.2)

end AccessGate.Proxy
