import AccessGate.Decision
import AccessGate.Proofs.Actions

/-!
A record beside the outside. Whatever the gate does leaves it alone, so that a policy service which
writes down its calls and their answers there is the same service in every other respect.
-/

namespace AccessGate

variable {σ τ α β : Type}

/-- The same outside, with something beside it. -/
def Environment.beside (env : Environment σ) : Environment (σ × τ) where
  exchange request s := ((env.exchange request s.1).1, ((env.exchange request s.1).2, s.2))
  now s := ((env.now s.1).1, ((env.now s.1).2, s.2))
  random size s := ((env.random size s.1).1, ((env.random size s.1).2, s.2))
  fileContent path s := ((env.fileContent path s.1).1, ((env.fileContent path s.1).2, s.2))
  report report s := (env.report report s.1, s.2)
  listen address s := ((env.listen address s.1).1, ((env.listen address s.1).2, s.2))

namespace Action

/-- Runs an action beside something that it does not touch. -/
def aside (action : Action σ α) : Action (σ × τ) α :=
  fun (s, other) => (action.run s).map fun (value, after) => (value, (after, other))

theorem aside_bind (action : Action σ α) (next : α → Action σ β) :
    ((action >>= next).aside : Action (σ × τ) β) =
      action.aside >>= fun value => (next value).aside := by
  funext ⟨s, other⟩
  change Except.map _ ((action >>= next).run s) = Except.bind (Except.map _ (action.run s)) _
  rw [StateT.run_bind]
  cases action.run s with
  | error crash => rfl
  | ok middle => rfl

/-- Two steps run beside something when each of them does. -/
theorem aside_steps (first : Action σ α) (beside : Action (σ × τ) α) (next : α → Action σ β)
    (after : α → Action (σ × τ) β) (start : beside = first.aside)
    (rest : ∀ value, after value = (next value).aside) :
    beside >>= after = (first >>= next).aside := by
  rw [aside_bind, start]
  exact congrArg _ (funext rest)

end Action

open AccessGate.Action (aside_bind aside_steps)

namespace Http

theorem sendOnce_beside (env : Environment σ) (request : Outgoing) :
    sendOnce (env.beside : Environment (σ × τ)) request = (sendOnce env request).aside := by
  unfold sendOnce
  split
  · refine aside_steps _ _ _ _ rfl ?_
    intro answer
    cases answer with
    | some response => rfl
    | none => rfl
  · rfl

-- By induction on the redirects that are left, as the requests go out.
theorem follow_beside (env : Environment σ) (left : Nat) (request : Outgoing) :
    follow (env.beside : Environment (σ × τ)) left request = (follow env left request).aside := by
  induction left generalizing request with
  | zero =>
      rw [follow, follow]
      refine aside_steps _ _ _ _ (sendOnce_beside env request) ?_
      intro answer
      cases answer with
      | error e => rfl
      | ok response =>
          cases moved : redirected request response with
          | none => simp only [moved]; rfl
          | some next => simp only [moved]; rfl
  | succ left ih =>
      rw [follow, follow]
      refine aside_steps _ _ _ _ (sendOnce_beside env request) ?_
      intro answer
      cases answer with
      | error e => rfl
      | ok response =>
          cases moved : redirected request response with
          | none => simp only [moved]; rfl
          | some next => simp only [moved, ih]

theorem fetch_beside (env : Environment σ) (request : Except SendError Outgoing) :
    fetch (env.beside : Environment (σ × τ)) request = (fetch env request).aside := by
  cases request with
  | error e => rfl
  | ok request => exact follow_beside env maxRedirects request

end Http

/-! ## Keys and credentials -/

theorem generate_beside (env : Environment σ) (bits : Nat) :
    Rsa.generate (env.beside : Environment (σ × τ)) bits = (Rsa.generate env bits).aside := by
  have factor : ∀ size, Rsa.factor (env.beside : Environment (σ × τ)) size =
      (Rsa.factor env size).aside := by
    intro size
    exact aside_steps _ _ _ _ rfl fun _ => rfl
  unfold Rsa.generate
  split
  · rfl
  · refine aside_steps _ _ _ _ (factor _) ?_
    intro p
    refine aside_steps _ _ _ _ (factor _) ?_
    intro q
    split
    · rfl
    · rfl

namespace KeySource

theorem make_beside (env : Environment σ) (bits : Nat) (id : String) :
    make (env.beside : Environment (σ × τ)) bits id = (make env bits id).aside := by
  unfold make
  split
  · rfl
  · refine aside_steps _ _ _ _ (generate_beside env bits) ?_
    intro key
    cases key with
    | none => rfl
    | some key => rfl

theorem request_beside (env : Environment σ) (baseUrl set : String) :
    request (env.beside : Environment (σ × τ)) baseUrl set = (request env baseUrl set).aside := by
  unfold request
  refine aside_steps _ _ _ _ (Http.fetch_beside env _) ?_
  intro answer
  cases answer with
  | error e => rfl
  | ok response =>
      dsimp only
      split
      · rfl
      · split
        · refine aside_steps _ _ _ _ (Http.fetch_beside env _) ?_
          intro created
          cases created with
          | error e => rfl
          | ok response =>
              dsimp only
              split
              · rfl
              · rfl
        · rfl

theorem load_beside (env : Environment σ) (source : KeySource) :
    source.load (env.beside : Environment (σ × τ)) = (source.load env).aside := by
  cases source with
  | made bits id => exact make_beside env bits id
  | service baseUrl set =>
      refine aside_steps _ _ _ _ (request_beside env baseUrl set) ?_
      intro answer
      cases answer with
      | error e => rfl
      | ok response => rfl
  | agreed key => rfl

end KeySource

namespace KeyAction

theorem run_lift_iff (action : Action σ α) (keys held : KeyManager) (s after : σ)
    (value : α) :
    ((liftM action : KeyAction σ α).run keys).run s = .ok ((value, held), after) ↔
      action.run s = .ok (value, after) ∧ held = keys := by
  constructor
  · intro ran
    change (action >>= fun value => pure (value, keys)).run s = _ at ran
    obtain ⟨found, between, first, finished⟩ := (Action.run_bind_ok action _ s _).mp ran
    cases finished
    exact ⟨first, rfl⟩
  · rintro ⟨ran, rfl⟩
    exact run_lift_ok action held s value after ran

theorem aside_steps (first : KeyAction σ α) (beside : KeyAction (σ × τ) α)
    (next : α → KeyAction σ β) (after : α → KeyAction (σ × τ) β) (start : beside = first.aside)
    (rest : ∀ value, after value = (next value).aside) :
    beside >>= after = (first >>= next).aside := by
  funext keys
  have ran : beside.run keys = (first.run keys).aside := by
    rw [start]
    rfl
  exact Action.aside_steps (first.run keys) (beside.run keys) _ _ ran fun middle =>
    congrFun (rest middle.1) middle.2

theorem aside_lift (action : Action σ α) :
    (liftM (action.aside : Action (σ × τ) α) : KeyAction (σ × τ) α) =
      (liftM action : KeyAction σ α).aside := by
  funext keys
  exact Action.aside_steps action action.aside (fun value => pure (value, keys))
    (fun value => pure (value, keys)) rfl fun _ => rfl

theorem reload_beside (env : Environment σ) :
    reload (env.beside : Environment (σ × τ)) = (reload env).aside := by
  refine aside_steps _ _ _ _ rfl ?_
  intro manager
  apply aside_steps
  · rw [KeySource.load_beside]
    exact aside_lift _
  · intro loaded
    funext keys
    cases loaded with
    | error e => rfl
    | ok key => rfl

theorem signingKey_beside (env : Environment σ) :
    signingKey (env.beside : Environment (σ × τ)) = (signingKey env).aside := by
  refine aside_steps _ _ _ _ rfl ?_
  intro manager
  cases manager.current with
  | some key => rfl
  | none => exact reload_beside env

theorem sign_beside (env : Environment σ) (claims : Json.Members) :
    sign (env.beside : Environment (σ × τ)) claims = (sign env claims).aside :=
  aside_steps _ _ _ _ (signingKey_beside env) fun _ => rfl

end KeyAction

theorem issue_beside (env : Environment σ) (issuer : Issuer) (session : Session) :
    issuer.issue (env.beside : Environment (σ × τ)) session = (issuer.issue env session).aside := by
  have claims : session.claims (env.beside : Environment (σ × τ)) issuer.name
      (.ofSeconds issuer.lifespan) =
      (session.claims env issuer.name (.ofSeconds issuer.lifespan)).aside := by
    refine aside_steps _ _ _ _ rfl ?_
    intro now
    refine aside_steps _ _ _ _ rfl ?_
    intro octets
    funext ⟨s, other⟩
    change Except.map _ (session.claimsAt _ _ _ _) = Except.map _ (Except.map _ _)
    cases session.claimsAt issuer.name (.ofSeconds issuer.lifespan) now (uuidText octets) with
    | error crash => rfl
    | ok claims => rfl
  unfold Issuer.issue
  split
  · rfl
  · apply KeyAction.aside_steps
    · rw [claims]
      exact KeyAction.aside_lift _
    · intro claims
      refine KeyAction.aside_steps _ _ _ _ (KeyAction.sign_beside env _) ?_
      intro signed
      cases signed with
      | error e => rfl
      | ok token => rfl

/-! ## Calls of the policy service -/

/-- A call of the policy service and its answer. -/
inductive PolicyCall where
  | introspected (token : String) (answer : Except PolicyError Introspection)
  | authorized (query : AccessQuery) (answer : Except PolicyError Authorization)

/-- Runs an action beside a record, and writes its answer down there. -/
def Action.recorded (entry : α → ε) (call : Action σ α) : Action (σ × List ε) α :=
  fun (s, log) => (call.run s).map fun (answer, after) => (answer, (after, log ++ [entry answer]))

theorem Action.recorded_run (entry : α → ε) (call : Action σ α) (s after : σ) (log : List ε)
    (answer : α) (ran : call.run s = .ok (answer, after)) :
    (call.recorded entry).run (s, log) = .ok (answer, (after, log ++ [entry answer])) := by
  change Except.map _ (call.run s) = _
  rw [ran]
  rfl

theorem Action.aside_run (action : Action σ α) (s after : σ) (other : τ) (value : α)
    (ran : action.run s = .ok (value, after)) :
    action.aside.run (s, other) = .ok (value, (after, other)) := by
  change Except.map _ (action.run s) = _
  rw [ran]
  rfl

/-- The same client, with a record of its calls. -/
def PolicyClient.recorded (client : PolicyClient σ) : PolicyClient (σ × List PolicyCall) where
  introspect token := (client.introspect token).recorded (.introspected token)
  authorize query := (client.authorize query).recorded (.authorized query)

def Arbiter.recorded (arbiter : Arbiter σ) : Arbiter (σ × List PolicyCall) :=
  ⟨arbiter.env.beside, arbiter.policy.recorded, arbiter.rules, arbiter.issuer⟩

/-- What comes of a plan, with the calls that were made for it. -/
inductive Answered : Plan → Evaluation → List PolicyCall → Prop where
  | settled (outcome : Except Denial Session) : Answered (.settled outcome) ⟨outcome, none, none⟩ []
  | introspected (token : String) (answer : Except PolicyError Introspection) :
      Answered (.ask (.introspect token)) (.ofIntrospection token answer)
        [.introspected token answer]
  | authorized (query : AccessQuery) (answer : Except PolicyError Authorization) :
      Answered (.ask (.authorize query)) (.ofAuthorization query answer) [.authorized query answer]

theorem carryOut_recorded (client : PolicyClient σ) (plan : Plan) (evaluation : Evaluation)
    (s after : σ) (ran : (Evaluation.carryOut client plan).run s = .ok (evaluation, after)) :
    ∃ calls, Answered plan evaluation calls ∧ ∀ log,
      (Evaluation.carryOut client.recorded plan).run (s, log) =
        .ok (evaluation, (after, log ++ calls)) := by
  rcases plan with outcome | ⟨token⟩ | ⟨query⟩
  · cases ran
    refine ⟨[], .settled outcome, fun log => ?_⟩
    rw [List.append_nil]
    rfl
  · obtain ⟨answer, between, asked, finished⟩ := (Action.run_bind_ok _ _ s _).mp ran
    cases finished
    refine ⟨_, .introspected token answer, fun log => ?_⟩
    exact (Action.run_bind_ok _ _ (s, log) _).mpr
      ⟨answer, _, Action.recorded_run _ _ s _ log answer asked, rfl⟩
  · obtain ⟨answer, between, asked, finished⟩ := (Action.run_bind_ok _ _ s _).mp ran
    cases finished
    refine ⟨_, .authorized query answer, fun log => ?_⟩
    exact (Action.run_bind_ok _ _ (s, log) _).mpr
      ⟨answer, _, Action.recorded_run _ _ s _ log answer asked, rfl⟩

namespace Arbiter

theorem session_recorded (arbiter : Arbiter σ) (request : Request)
    (outcome : Except Denial Session) (s after : σ)
    (ran : (arbiter.session request).run s = .ok (outcome, after)) :
    ∃ evaluation calls, Answered (Evaluation.plan arbiter.rules request) evaluation calls ∧
      evaluation.outcome = outcome ∧ ∀ log,
        (arbiter.recorded.session request).run (s, log) = .ok (outcome, (after, log ++ calls)) := by
  obtain ⟨evaluation, asked, evaluated, told⟩ := (Action.run_bind_ok _ _ s _).mp ran
  obtain ⟨calls, answered, recorded⟩ := carryOut_recorded _ _ evaluation s asked evaluated
  refine ⟨evaluation, calls, answered, ?_⟩
  cases ignored : evaluation.ignoredToken with
  | none =>
      simp only [ignored] at told
      cases told
      refine ⟨rfl, fun log => ?_⟩
      refine (Action.run_bind_ok _ _ (s, log) _).mpr ⟨evaluation, _, recorded log, ?_⟩
      simp only [ignored]
      rfl
  | some token =>
      simp only [ignored] at told
      cases told
      refine ⟨rfl, fun log => ?_⟩
      refine (Action.run_bind_ok _ _ (s, log) _).mpr ⟨evaluation, _, recorded log, ?_⟩
      simp only [ignored]
      rfl

/-- What a decision is made of: an evaluation, and the credential for the session that it grants. -/
structure Decides (arbiter : Arbiter σ) (request : Request) (evaluation : Evaluation)
    (decision : Except Denial (Session × Option Token)) : Prop where
  denied : ∀ denial, evaluation.outcome = .error denial → decision = .error denial
  granted : ∀ session, evaluation.outcome = .ok session →
    ∃ keys held s after credential,
      ((arbiter.issuer.issue arbiter.env session).run keys).run s =
        .ok ((credential, held), after) ∧
      decision = credential.map (session, ·)

theorem decide_recorded (arbiter : Arbiter σ) (request : Request)
    (decision : Except Denial (Session × Option Token)) (keys held : KeyManager) (s after : σ)
    (ran : ((arbiter.decide request).run keys).run s = .ok ((decision, held), after)) :
    ∃ evaluation calls, Answered (Evaluation.plan arbiter.rules request) evaluation calls ∧
      arbiter.Decides request evaluation decision ∧ ∀ log,
        ((arbiter.recorded.decide request).run keys).run (s, log) =
          .ok ((decision, held), (after, log ++ calls)) := by
  obtain ⟨outcome, sameKeys, between, lifted, issued⟩ := (KeyAction.run_bind_ok _ _ keys s _).mp ran
  obtain ⟨evaluated, rfl⟩ := (KeyAction.run_lift_iff _ keys sameKeys s between outcome).mp lifted
  obtain ⟨evaluation, calls, answered, rfl, recorded⟩ :=
    session_recorded arbiter request outcome s between evaluated
  have beside := fun log => KeyAction.run_lift_ok _ sameKeys (s, log) _ _ (recorded log)
  refine ⟨evaluation, calls, answered, ?_⟩
  cases granted : evaluation.outcome with
  | error denial =>
      simp only [granted] at issued beside
      cases issued
      refine ⟨⟨?_, ?_⟩, fun log => ?_⟩
      · intro other same
        cases granted.symm.trans same
        rfl
      · intro session same
        cases granted.symm.trans same
      · exact (KeyAction.run_bind_ok _ _ _ (s, log) _).mpr ⟨_, _, _, beside log, rfl⟩
  | ok session =>
      simp only [granted] at issued beside
      obtain ⟨credential, kept, later, minted, finished⟩ :=
        (KeyAction.run_bind_ok _ _ _ between _).mp issued
      cases finished
      refine ⟨⟨?_, ?_⟩, fun log => ?_⟩
      · intro denial same
        cases granted.symm.trans same
      · intro other same
        cases granted.symm.trans same
        exact ⟨_, _, _, _, credential, minted, rfl⟩
      · refine (KeyAction.run_bind_ok _ _ _ (s, log) _).mpr ⟨_, _, _, beside log, ?_⟩
        refine (KeyAction.run_bind_ok _ _ _ (between, log ++ calls) _).mpr
          ⟨credential, held, (after, log ++ calls), ?_, rfl⟩
        have aside := KeyAction.aside_run _ sameKeys held between after (log ++ calls) _ minted
        rwa [← issue_beside] at aside

end Arbiter

end AccessGate
