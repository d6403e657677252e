import AccessGate.Proofs.CredentialField
import AccessGate.Proofs.PolicyCalls
import AccessGate.Proxy.Forward

/-!
What the proxy hands to the client that talks to the backend. The client is a parameter here, so that
a watched one can count what it is handed; with the gate's own client both forms are the same.
-/

namespace AccessGate.Proxy

variable {σ : Type}

/-! ## What the backend's client is handed -/

/-- An attempt to reach the backend. -/
structure Shipment where
  method : Http.Method
  target : Http.Target
  headers : Http.Headers
  body : Http.Octets

def oversized : Denial := .badRequest "unable to read request body: length limit exceeded"

def shipment (target : Http.Target) (incoming : Http.Incoming) (credential : Option String) :
    Except Denial Shipment := do
  let headers ← forwardedHeaders incoming credential
  if incoming.body.length > maxBody then .error oversized
  else pure ⟨incoming.method, target, headers, incoming.body⟩

/-- The gate's own client: the text of the target is read as a URL, and one request is sent there. -/
def ship (env : Environment σ) (shipment : Shipment) :
    Action σ (Except Http.SendError Http.Response) :=
  match Http.Outgoing.ofText shipment.method (String.ofList shipment.target.render) with
  | .error e => pure (.error e)
  | .ok request =>
      Http.sendOnce env { request.withHeaders shipment.headers with body := shipment.body }

/-- Hands an attempt to a client. -/
def forwardBy (client : Shipment → Action σ (Except Http.SendError Http.Response))
    (target : Http.Target) (incoming : Http.Incoming) (credential : Option String) :
    Action σ (Except Denial Http.Response) :=
  match shipment target incoming credential with
  | .error denial => pure (.error denial)
  | .ok attempt => do
      match ← client attempt with
      | .ok response => pure (.ok (returned response))
      | .error e => pure (.error (.backendFailure e.message))

def roundTripBy (client : Shipment → Action σ (Except Http.SendError Http.Response))
    (target : Http.Target) (incoming : Http.Incoming) (verdict : Option Verdict) :
    Action σ Http.Response :=
  match verdict with
  | some (.allowed credential) => do
      match ← forwardBy client target incoming credential with
      | .ok response => pure response
      | .error denial => pure denial.response
  | some (.denied denial) => pure denial.response
  | none => pure Denial.undecided.response

-- Splitting off the client leaves the forwarding as it is: every error comes before the client or
-- from it.
theorem forward_eq (env : Environment σ) (target : Http.Target) (incoming : Http.Incoming)
    (credential : Option String) :
    forward env target incoming credential = forwardBy (ship env) target incoming credential := by
  cases built : forwardedHeaders incoming credential with
  | error denial =>
      simp [forward, forwardBy, outgoing, shipment, built, Bind.bind, Except.bind]
  | ok headers =>
      by_cases large : incoming.body.length > maxBody
      · simp [forward, forwardBy, outgoing, shipment, built, Bind.bind, Except.bind, large, oversized]
      · let attempt : Shipment := ⟨incoming.method, target, headers, incoming.body⟩
        have packed : shipment target incoming credential = .ok attempt := by
          simp [shipment, built, Bind.bind, Except.bind, large, pure, Except.pure, attempt]
        cases read : Http.Outgoing.ofText incoming.method (String.ofList target.render) with
        | error e =>
            have unread : outgoing target incoming credential =
                .error (.backendFailure e.message) := by
              simp [outgoing, built, Bind.bind, Except.bind, large, read]
            have unsent : ship env attempt = pure (.error e) := by
              simp [ship, attempt, read]
            unfold forward forwardBy
            rw [unread, packed]
            dsimp only
            rw [unsent]
            rfl
        | ok request =>
            have posted : outgoing target incoming credential =
                .ok { request.withHeaders headers with body := incoming.body } := by
              simp [outgoing, built, Bind.bind, Except.bind, large, read, pure, Except.pure]
            have sent : Http.sendOnce env { request.withHeaders headers with body := incoming.body } =
                ship env attempt := by
              simp [ship, attempt, read]
            unfold forward forwardBy
            rw [posted, packed]
            exact congrArg (· >>= _) sent

theorem roundTrip_eq (env : Environment σ) (target : Http.Target) (incoming : Http.Incoming)
    (verdict : Option Verdict) :
    roundTrip env target incoming verdict = roundTripBy (ship env) target incoming verdict := by
  unfold roundTrip roundTripBy
  rcases verdict with _ | ⟨credential⟩ | ⟨denial⟩
  · rfl
  · exact congrArg (· >>= _) (forward_eq env target incoming credential)
  · rfl

theorem sendOnce_once (env : Environment σ) (request : Http.Outgoing) (s : σ) :
    (∃ e, (Http.sendOnce env request).run s = .ok (.error e, s)) ∨
      ∃ answer, (Http.sendOnce env request).run s =
        .ok (answer, (env.exchange request.completed s).2) := by
  unfold Http.sendOnce
  by_cases askable : Http.Outgoing.isAskable request.url
  · rw [if_pos askable]
    right
    have sent : (env.send request.completed).run s = .ok (env.exchange request.completed s) := rfl
    cases answered : (env.exchange request.completed s).1 with
    | none =>
        refine ⟨.error (.noAnswer request.url.render), ?_⟩
        exact (Action.run_bind_ok _ _ s _).mpr ⟨none, _, by rw [sent, ← answered], rfl⟩
    | some response =>
        refine ⟨.ok response, ?_⟩
        exact (Action.run_bind_ok _ _ s _).mpr ⟨some response, _, by rw [sent, ← answered], rfl⟩
  · rw [if_neg askable]
    exact .inl ⟨_, rfl⟩

/-- One request leaves for the backend, or none when the target cannot be asked. -/
def Shipment.GoesOnce (env : Environment σ) (attempt : Shipment) : Prop :=
  ∀ s, (∃ e, (ship env attempt).run s = .ok (.error e, s)) ∨
    ∃ request answer, (ship env attempt).run s = .ok (answer, (env.exchange request s).2)

theorem ship_once (env : Environment σ) (attempt : Shipment) : attempt.GoesOnce env := by
  intro s
  unfold ship
  cases read : Http.Outgoing.ofText attempt.method (String.ofList attempt.target.render) with
  | error e => exact .inl ⟨e, rfl⟩
  | ok request =>
      rcases sendOnce_once env { request.withHeaders attempt.headers with body := attempt.body } s
        with ⟨e, ran⟩ | ⟨answer, ran⟩
      · exact .inl ⟨e, ran⟩
      · exact .inr ⟨_, answer, ran⟩

theorem ship_ends (env : Environment σ) (attempt : Shipment) : (ship env attempt).Ends := by
  intro s
  rcases ship_once env attempt s with ⟨e, ran⟩ | ⟨request, answer, ran⟩
  · exact ⟨_, ran⟩
  · exact ⟨_, ran⟩

/-! ## Carrying out a verdict -/

/-- The gate's own client, with a log of what it was handed. -/
def watchedShip (env : Environment σ) (attempt : Shipment) :
    Action (σ × List Shipment) (Except Http.SendError Http.Response) :=
  (ship env attempt).noted attempt

theorem shipment_of_token (target : Http.Target) (incoming : Http.Incoming)
    (credential : Option Token) :
    ∃ headers, shipment target incoming (credential.map Token.render) =
      if incoming.body.length > maxBody then .error oversized
      else .ok ⟨incoming.method, target, headers, incoming.body⟩ := by
  obtain ⟨headers, built⟩ := forwardedHeaders_of_token incoming credential
  refine ⟨headers, ?_⟩
  unfold shipment
  rw [built]
  rfl

/-- How a verdict is carried out, and what the client is handed for it. -/
structure Carried (env : Environment σ) (target : Http.Target) (incoming : Http.Incoming)
    (verdict : Option Verdict) (s : σ) (response : Http.Response) (after : σ)
    (sent : List Shipment) : Prop where
  plain : (roundTrip env target incoming verdict).run s = .ok (response, after)
  watched : ∀ log, (roundTripBy (watchedShip env) target incoming verdict).run (s, log) =
    .ok (response, (after, log ++ sent))

theorem carried_denied (env : Environment σ) (target : Http.Target) (incoming : Http.Incoming)
    (denial : Denial) (s : σ) :
    Carried env target incoming (some (.denied denial)) s denial.response s [] where
  plain := rfl
  watched log := by
    rw [List.append_nil]
    rfl

theorem carried_none (env : Environment σ) (target : Http.Target) (incoming : Http.Incoming)
    (s : σ) : Carried env target incoming none s Denial.undecided.response s [] where
  plain := rfl
  watched log := by
    rw [List.append_nil]
    rfl

/-- What the caller is told of the backend's answer. -/
def told : Except Http.SendError Http.Response → Http.Response
  | .ok response => returned response
  | .error e => (Denial.backendFailure e.message).response

-- Both for the client itself and for the watched one, whose outside state has the log beside it.
theorem roundTripBy_unfit (client : Shipment → Action σ (Except Http.SendError Http.Response))
    (target : Http.Target) (incoming : Http.Incoming) (credential : Option String) (s : σ)
    (denial : Denial) (unfit : shipment target incoming credential = .error denial) :
    (roundTripBy client target incoming (some (.allowed credential))).run s =
      .ok (denial.response, s) := by
  simp only [roundTripBy, forwardBy, unfit]
  rfl

theorem roundTripBy_fit (client : Shipment → Action σ (Except Http.SendError Http.Response))
    (target : Http.Target) (incoming : Http.Incoming) (credential : Option String) (s after : σ)
    (attempt : Shipment) (answer : Except Http.SendError Http.Response)
    (fit : shipment target incoming credential = .ok attempt)
    (shipped : (client attempt).run s = .ok (answer, after)) :
    (roundTripBy client target incoming (some (.allowed credential))).run s =
      .ok (told answer, after) := by
  simp only [roundTripBy, forwardBy, fit]
  cases answer with
  | ok response =>
      refine (Action.run_bind_ok _ _ s _).mpr ⟨.ok (returned response), after, ?_, rfl⟩
      exact (Action.run_bind_ok _ _ s _).mpr ⟨.ok response, after, shipped, rfl⟩
  | error e =>
      refine (Action.run_bind_ok _ _ s _).mpr ⟨.error (.backendFailure e.message), after, ?_, rfl⟩
      exact (Action.run_bind_ok _ _ s _).mpr ⟨.error e, after, shipped, rfl⟩

theorem carried_oversized (env : Environment σ) (target : Http.Target) (incoming : Http.Incoming)
    (credential : Option Token) (s : σ) (large : incoming.body.length > maxBody) :
    Carried env target incoming (some (.allowed (credential.map Token.render))) s
      oversized.response s [] := by
  obtain ⟨headers, unfit⟩ := shipment_of_token target incoming credential
  rw [if_pos large] at unfit
  constructor
  · rw [roundTrip_eq]
    exact roundTripBy_unfit _ _ _ _ s _ unfit
  · intro log
    rw [List.append_nil]
    exact roundTripBy_unfit _ _ _ _ (s, log) _ unfit

theorem carried_shipped (env : Environment σ) (target : Http.Target) (incoming : Http.Incoming)
    (credential : Option Token) (s : σ) (fits : incoming.body.length ≤ maxBody) :
    ∃ headers response after,
      Carried env target incoming (some (.allowed (credential.map Token.render))) s response after
        [⟨incoming.method, target, headers, incoming.body⟩] := by
  obtain ⟨headers, fit⟩ := shipment_of_token target incoming credential
  rw [if_neg (by omega)] at fit
  obtain ⟨⟨answer, after⟩, shipped⟩ :=
    ship_ends env ⟨incoming.method, target, headers, incoming.body⟩ s
  refine ⟨headers, told answer, after, ?_, ?_⟩
  · rw [roundTrip_eq]
    exact roundTripBy_fit _ _ _ _ s after _ answer fit shipped
  · intro log
    apply roundTripBy_fit _ _ _ _ (s, log) _ _ answer fit
    exact Action.noted_run _ _ s log answer after shipped

end AccessGate.Proxy
