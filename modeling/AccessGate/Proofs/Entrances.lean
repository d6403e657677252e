import AccessGate.Judge
import AccessGate.Proxy.Forward

/-!
The ways in. Whether a request is forwarded, described or judged itself, it is decided about in the
same way and once; the entrances differ in how they find the request and in what they make of the
decision.
-/

namespace AccessGate

variable {σ : Type}

/-- A decision: who the caller is, with the credential that goes with it. -/
abbrev Decision := Except Denial (Session × Option Token)

/-- Decides about a request that was read, if it was. -/
def Arbiter.decideOn (arbiter : Arbiter σ) : Except Denial Request → KeyAction σ Decision
  | .error denial => pure (.error denial)
  | .ok request => arbiter.decide request

theorem Judge.verdictOn_eq (arbiter : Arbiter σ) (request : Except Denial Request) :
    verdictOn arbiter request = do return answer (← arbiter.decideOn request) := by
  cases request with
  | error denial => rfl
  | ok request => rfl

namespace Proxy

/-- The target and the verdict that a decision leaves a request with. -/
def stamped (backend : Url) (target : Http.Target) : Decision → Http.Target × Verdict
  | .error denial => (target, .denied denial)
  | .ok (_, token) =>
      match backendTarget backend target with
      | .ok placed => (placed, .allowed (token.map Token.render))
      | .error denial => (target, .denied denial)

theorem direct_eq (arbiter : Arbiter σ) (backend : Url) (incoming : Http.Incoming) :
    direct arbiter backend incoming = do
      let request := Request.ofHttp incoming.method incoming.target incoming.headers incoming.peer
      return stamped backend incoming.target (← arbiter.decideOn request) := by
  unfold direct
  cases Request.ofHttp incoming.method incoming.target incoming.headers incoming.peer with
  | error denial => rfl
  | ok request =>
      simp only [credential, Arbiter.decideOn, bind_assoc, pure_bind]
      congr 1
      funext decision
      rcases decision with denial | ⟨session, token⟩
      · rfl
      · simp only [Except.map, stamped]
        cases backendTarget backend incoming.target with
        | error denial => rfl
        | ok target => rfl

end Proxy

inductive Entrance where
  | proxy
  /-- A call that describes a request. -/
  | described
  /-- A call that stands for a request itself. -/
  | mirrored
  deriving DecidableEq, Repr

namespace Entrance

def serve (arbiter : Arbiter σ) (backend : Url) (incoming : Http.Incoming) :
    Entrance → KeyAction σ Http.Response
  | proxy => Proxy.handle arbiter backend incoming
  | described => Judge.described arbiter incoming
  | mirrored => Judge.itself arbiter incoming

/-- The request that is decided about, or the answer when there is none. -/
def request (incoming : Http.Incoming) : Entrance → Except Http.Response Request
  | proxy =>
      (Request.ofHttp incoming.method incoming.target incoming.headers incoming.peer).mapError
        Denial.response
  | described =>
      (Judge.queryOf incoming).bind fun query => (query.request incoming).mapError Denial.response
  | mirrored => (Judge.innerRequest incoming).mapError Denial.response

/-- What an entrance makes of a decision. -/
def conclude (env : Environment σ) (backend : Url) (incoming : Http.Incoming)
    (decision : Decision) : Entrance → Action σ Http.Response
  | proxy =>
      let directed := Proxy.stamped backend incoming.target decision
      Proxy.roundTrip env directed.1 incoming (some directed.2)
  | _ => pure (Judge.answer decision)

-- The answer to an unreadable request is that of its denial, which needs no decision.
theorem serve_eq (arbiter : Arbiter σ) (backend : Url) (incoming : Http.Incoming)
    (entrance : Entrance) :
    entrance.serve arbiter backend incoming = match entrance.request incoming with
      | .error refusal => pure refusal
      | .ok request => (do
          let decision ← arbiter.decide request
          entrance.conclude arbiter.env backend incoming decision) := by
  cases entrance with
  | proxy =>
      simp only [serve, Proxy.handle, Proxy.direct_eq, request, bind_assoc, pure_bind]
      cases Request.ofHttp incoming.method incoming.target incoming.headers incoming.peer with
      | error denial => rfl
      | ok request => rfl
  | described =>
      simp only [serve, Judge.described, request]
      cases Judge.queryOf incoming with
      | error refusal => rfl
      | ok query =>
          simp only [Judge.verdictOn_eq, Except.bind]
          cases query.request incoming with
          | error denial => rfl
          | ok request => rfl
  | mirrored =>
      simp only [serve, Judge.itself, request, Judge.verdictOn_eq]
      cases Judge.innerRequest incoming with
      | error denial => rfl
      | ok request => rfl

end Entrance

end AccessGate
