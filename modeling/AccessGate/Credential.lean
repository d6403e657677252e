import AccessGate.Denial
import AccessGate.Keys.Manager

/-!
The credential that the backend is shown in place of the caller's: a signed token that tells who the
caller turned out to be.
-/

namespace AccessGate

/-- Who issues credentials, and for how many seconds they hold. -/
structure Issuer where
  name : String
  lifespan : Nat
  deriving DecidableEq, Repr, Inhabited

namespace Issuer

/-- Bypassed sessions get no credential; what they bring along stays in place. -/
def issue (env : Environment σ) (issuer : Issuer) (session : Session) :
    KeyAction σ (Except Denial (Option Token)) := do
  if session.isBypassed then pure (.ok none)
  else
    let claims ← session.claims env issuer.name (.ofSeconds issuer.lifespan)
    match ← KeyAction.sign env claims.toMembers with
    | .ok token => pure (.ok (some token))
    | .error e => pure (.error (.signingFailure e.message))

end Issuer

end AccessGate
