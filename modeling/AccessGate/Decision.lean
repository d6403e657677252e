import AccessGate.Credential
import AccessGate.Evaluation

/-!
A decision about a request: who the caller is, and the credential that goes with it. Nothing is
issued for a request that is denied.
-/

namespace AccessGate

/-- All that a decision depends on. -/
structure Arbiter (σ : Type) where
  env : Environment σ
  policy : PolicyClient σ
  rules : RuleSet
  issuer : Issuer

namespace Arbiter

/-- Evaluates a request and tells of a token that was ignored. -/
def session (arbiter : Arbiter σ) (request : Request) : Action σ (Except Denial Session) := do
  let evaluation ← evaluate arbiter.policy arbiter.rules request
  match evaluation.ignoredToken with
  | some token => arbiter.env.tell (.ignoredToken (Evaluation.tokenStart token))
  | none => pure ()
  pure evaluation.outcome

def decide (arbiter : Arbiter σ) (request : Request) :
    KeyAction σ (Except Denial (Session × Option Token)) := do
  match ← arbiter.session request with
  | .error denial => pure (.error denial)
  | .ok session => return (← arbiter.issuer.issue arbiter.env session).map (session, ·)

end Arbiter

namespace Denial

def response (denial : Denial) : Http.Response :=
  .json denial.status (.object [("error", .string denial.message)])

end Denial

def credentialField? (credential : String) : Except Denial Http.Octets :=
  match Http.fieldText? ("Bearer " ++ credential) with
  | some value => .ok value
  | none => .error (.signingFailure "failed to parse header value")

end AccessGate
