import AccessGate.Proofs.Shipment

/-!
What a verdict of the proxy rests on. An allowed request has passed every step; a denied one failed at
a definite step, and has the denial of that step.
-/

namespace AccessGate

variable {σ : Type}

/-! ## Decisions come to an end -/

/-- Credentials that are issued at any time expire within what the clock can hold. -/
def Environment.ClockHolds (env : Environment σ) (lifespan : Nat) : Prop :=
  ∀ s, (env.now s).1.seconds + lifespan ≤ Instant.lastSecond

/-- A policy service that is never the reason for a crash. -/
structure PolicyClient.Answers (client : PolicyClient σ) : Prop where
  introspect_ends : ∀ token, (client.introspect token).Ends
  authorize_ends : ∀ query, (client.authorize query).Ends

theorem overHttp_answers (env : Environment σ) (endpoints : PolicyClient.Endpoints) :
    (PolicyClient.overHttp env endpoints).Answers where
  introspect_ends token s := by
    obtain ⟨_, after, answer, -, answered, -⟩ := introspect_reflects env endpoints token s
    exact ⟨(answer, after), answered⟩
  authorize_ends query s := by
    obtain ⟨_, after, answer, -, answered, -⟩ := authorize_reflects env endpoints query s
    exact ⟨(answer, after), answered⟩

-- A plan asks at most one question, and what follows the answer asks nothing more.
theorem evaluate_ends (client : PolicyClient σ) (rules : RuleSet) (request : Request)
    (answers : client.Answers) : (evaluate client rules request).Ends := by
  unfold evaluate
  rcases Evaluation.plan rules request with outcome | ⟨token⟩ | ⟨query⟩
  · exact Action.ends_pure _
  · exact Action.ends_bind _ _ (answers.introspect_ends token) fun _ => Action.ends_pure _
  · exact Action.ends_bind _ _ (answers.authorize_ends query) fun _ => Action.ends_pure _

def Environment.HoldsAt (env : Environment σ) (lifespan : Nat) (s : σ) : Prop :=
  (env.now s).1.seconds + lifespan ≤ Instant.lastSecond

theorem claims_held (env : Environment σ) (session : Session) (issuer : String) (lifespan : Nat) (s : σ)
    (holds : env.HoldsAt lifespan s) :
    ∃ result, (session.claims env issuer (.ofSeconds lifespan)).run s = .ok result := by
  unfold Environment.HoldsAt at holds
  simp [Session.claims, Environment.instant, Environment.octets, StateT.run, Bind.bind, StateT.bind,
    Except.bind, Session.claimsAt, Instant.after_ofSeconds, holds, Except.map]

theorem issue_held (env : Environment σ) (issuer : Issuer) (session : Session) (keys : KeyManager) (s : σ)
    (held : session.isBypassed = true ∨ env.HoldsAt issuer.lifespan s) :
    ∃ result, ((issuer.issue env session).run keys).run s = .ok result := by
  unfold Issuer.issue
  by_cases bypassed : session.isBypassed = true
  · rw [if_pos bypassed]
    exact KeyAction.ends_pure _ keys s
  · rw [if_neg bypassed]
    obtain ⟨⟨claims, between⟩, told⟩ :=
      claims_held env session issuer.name issuer.lifespan s (held.resolve_left bypassed)
    have starts := KeyAction.run_lift_ok _ keys s _ _ told
    obtain ⟨⟨⟨signed, kept⟩, after⟩, signs⟩ := KeyAction.sign_ends env claims.toMembers keys between
    cases signed with
    | error e =>
        exact ⟨_, (KeyAction.run_bind_ok _ _ keys s _).mpr ⟨claims, keys, between, starts,
          (KeyAction.run_bind_ok _ _ keys between _).mpr ⟨_, kept, after, signs, rfl⟩⟩⟩
    | ok token =>
        exact ⟨_, (KeyAction.run_bind_ok _ _ keys s _).mpr ⟨claims, keys, between, starts,
          (KeyAction.run_bind_ok _ _ keys between _).mpr ⟨_, kept, after, signs, rfl⟩⟩⟩

theorem issue_ends (env : Environment σ) (issuer : Issuer) (session : Session)
    (clock : env.ClockHolds issuer.lifespan) : (issuer.issue env session).Ends :=
  fun keys s => issue_held env issuer session keys s (.inr (clock s))

namespace Proxy

/-! ## What lets a request through -/

/-- What an approved request has gone through. -/
structure Approval (σ : Type) where
  request : Request
  rule : Rule
  evaluation : Evaluation
  session : Session
  /-- The outside after the evaluation. -/
  asked : σ

/-- The evaluation under the only rule that matches approves of the request. -/
structure Approves (arbiter : Arbiter σ) (incoming : Http.Incoming) (s : σ) (a : Approval σ) :
    Prop where
  read : Request.ofHttp incoming.method incoming.target incoming.headers incoming.peer =
    .ok a.request
  single : arbiter.rules.matching a.request.method a.request.matchUrl = [a.rule]
  evaluated : (evaluate arbiter.policy arbiter.rules a.request).run s = .ok (a.evaluation, a.asked)
  approved : a.evaluation.outcome = .ok a.session

/-- The outside after an operator was told of a token that did not help. -/
def afterReport (env : Environment σ) (evaluation : Evaluation) (s : σ) : σ :=
  match evaluation.ignoredToken with
  | some token => env.report (.ignoredToken (Evaluation.tokenStart token)) s
  | none => s

/-- What the issuer gives out for an approved request. -/
def Issues (arbiter : Arbiter σ) (keys : KeyManager) (a : Approval σ)
    (credential : Except Denial (Option Token)) : Prop :=
  ∃ held after, ((arbiter.issuer.issue arbiter.env a.session).run keys).run
    (afterReport arbiter.env a.evaluation a.asked) = .ok ((credential, held), after)

/-- All that a request has to get before it goes to the backend, its size apart. -/
structure Admission (σ : Type) extends Approval σ where
  credential : Option Token
  target : Http.Target

structure Admits (arbiter : Arbiter σ) (backend : Url) (incoming : Http.Incoming)
    (keys : KeyManager) (s : σ) (a : Admission σ) : Prop where
  approves : Approves arbiter incoming s a.toApproval
  issued : Issues arbiter keys a.toApproval (.ok a.credential)
  targeted : backendTarget backend incoming.target = .ok a.target

/-- The first step that fails, and the denial it ends with. -/
inductive Refused (arbiter : Arbiter σ) (backend : Url) (incoming : Http.Incoming)
    (keys : KeyManager) (s : σ) : Denial → Prop where
  | unreadable (denial : Denial)
      (read : Request.ofHttp incoming.method incoming.target incoming.headers incoming.peer =
        .error denial) :
      Refused arbiter backend incoming keys s denial
  | unmatched (request : Request)
      (read : Request.ofHttp incoming.method incoming.target incoming.headers incoming.peer =
        .ok request)
      (several : ∀ rule, arbiter.rules.matching request.method request.matchUrl ≠ [rule]) :
      Refused arbiter backend incoming keys s
        (RuleSet.undecided (arbiter.rules.matching request.method request.matchUrl))
  | disapproved (request : Request) (rule : Rule) (evaluation : Evaluation) (asked : σ)
      (denial : Denial)
      (read : Request.ofHttp incoming.method incoming.target incoming.headers incoming.peer =
        .ok request)
      (single : arbiter.rules.matching request.method request.matchUrl = [rule])
      (evaluated : (evaluate arbiter.policy arbiter.rules request).run s = .ok (evaluation, asked))
      (denied : evaluation.outcome = .error denial) :
      Refused arbiter backend incoming keys s denial
  | unsigned (a : Approval σ) (denial : Denial) (approves : Approves arbiter incoming s a)
      (issued : Issues arbiter keys a (.error denial)) :
      Refused arbiter backend incoming keys s denial
  | untargeted (a : Approval σ) (credential : Option Token) (denial : Denial)
      (approves : Approves arbiter incoming s a) (issued : Issues arbiter keys a (.ok credential))
      (targeted : backendTarget backend incoming.target = .error denial) :
      Refused arbiter backend incoming keys s denial
  | oversized (a : Admission σ) (admits : Admits arbiter backend incoming keys s a)
      (large : incoming.body.length > maxBody) :
      Refused arbiter backend incoming keys s oversized

theorem approves_unique (arbiter : Arbiter σ) (incoming : Http.Incoming) (s : σ)
    (a b : Approval σ) (one : Approves arbiter incoming s a) (other : Approves arbiter incoming s b) :
    a = b := by
  obtain ⟨request, rule, evaluation, session, asked⟩ := a
  obtain ⟨request', rule', evaluation', session', asked'⟩ := b
  obtain ⟨read, single, evaluated, approved⟩ := one
  obtain ⟨read', single', evaluated', approved'⟩ := other
  dsimp only at *
  cases read.symm.trans read'
  cases single.symm.trans single'
  cases evaluated.symm.trans evaluated'
  cases approved.symm.trans approved'
  rfl

theorem issues_unique (arbiter : Arbiter σ) (keys : KeyManager) (a : Approval σ)
    (first second : Except Denial (Option Token)) (one : Issues arbiter keys a first)
    (other : Issues arbiter keys a second) : first = second := by
  obtain ⟨held, after, issued⟩ := one
  obtain ⟨held', after', issued'⟩ := other
  cases issued.symm.trans issued'
  rfl

theorem large_of_refused (arbiter : Arbiter σ) (backend : Url) (incoming : Http.Incoming)
    (keys : KeyManager) (s : σ) (a : Admission σ) (denial : Denial)
    (admits : Admits arbiter backend incoming keys s a)
    (refused : Refused arbiter backend incoming keys s denial) :
    incoming.body.length > maxBody := by
  obtain ⟨approves, issued, targeted⟩ := admits
  cases refused with
  | unreadable denial read => cases read.symm.trans approves.read
  | unmatched request read several =>
      cases read.symm.trans approves.read
      exact absurd approves.single (several _)
  | disapproved request rule evaluation asked denial read single evaluated denied =>
      cases read.symm.trans approves.read
      cases evaluated.symm.trans approves.evaluated
      cases denied.symm.trans approves.approved
  | unsigned b denial approved unsigned =>
      cases approves_unique arbiter incoming s _ _ approved approves
      cases issues_unique arbiter keys _ _ _ unsigned issued
  | untargeted b credential denial approved signed untargeted =>
      cases untargeted.symm.trans targeted
  | oversized b admitted large => exact large

/-! ## The decision -/

theorem session_run (arbiter : Arbiter σ) (request : Request) (evaluation : Evaluation) (s asked : σ)
    (evaluated : (evaluate arbiter.policy arbiter.rules request).run s = .ok (evaluation, asked)) :
    (arbiter.session request).run s =
      .ok (evaluation.outcome, afterReport arbiter.env evaluation asked) := by
  refine (Action.run_bind_ok _ _ s _).mpr ⟨evaluation, asked, evaluated, ?_⟩
  unfold afterReport
  cases evaluation.ignoredToken with
  | none => rfl
  | some token => rfl

theorem decide_denied (arbiter : Arbiter σ) (request : Request) (evaluation : Evaluation)
    (keys : KeyManager) (s asked : σ) (denial : Denial)
    (evaluated : (evaluate arbiter.policy arbiter.rules request).run s = .ok (evaluation, asked))
    (denied : evaluation.outcome = .error denial) :
    ((arbiter.decide request).run keys).run s =
      .ok ((.error denial, keys), afterReport arbiter.env evaluation asked) := by
  have ran := session_run arbiter request evaluation s asked evaluated
  rw [denied] at ran
  exact (KeyAction.run_bind_ok _ _ keys s _).mpr
    ⟨.error denial, keys, _, KeyAction.run_lift_ok _ keys s _ _ ran, rfl⟩

theorem decide_issued (arbiter : Arbiter σ) (a : Approval σ) (keys held : KeyManager) (s after : σ)
    (credential : Except Denial (Option Token))
    (evaluated : (evaluate arbiter.policy arbiter.rules a.request).run s =
      .ok (a.evaluation, a.asked))
    (approved : a.evaluation.outcome = .ok a.session)
    (issued : ((arbiter.issuer.issue arbiter.env a.session).run keys).run
      (afterReport arbiter.env a.evaluation a.asked) = .ok ((credential, held), after)) :
    ((arbiter.decide a.request).run keys).run s =
      .ok ((credential.map (a.session, ·), held), after) := by
  have ran := session_run arbiter a.request a.evaluation s a.asked evaluated
  rw [approved] at ran
  refine (KeyAction.run_bind_ok _ _ keys s _).mpr
    ⟨.ok a.session, keys, _, KeyAction.run_lift_ok _ keys s _ _ ran, ?_⟩
  exact (KeyAction.run_bind_ok _ _ keys _ _).mpr ⟨credential, held, after, issued, rfl⟩

def Warranted (arbiter : Arbiter σ) (backend : Url) (incoming : Http.Incoming) (keys : KeyManager)
    (s : σ) (target : Http.Target) : Verdict → Prop
  | .allowed credential => ∃ a, Admits arbiter backend incoming keys s a ∧ target = a.target ∧
      credential = a.credential.map Token.render
  | .denied denial => target = incoming.target ∧ Refused arbiter backend incoming keys s denial

theorem direct_of_credential (arbiter : Arbiter σ) (backend : Url) (incoming : Http.Incoming)
    (keys held : KeyManager) (s after : σ) (result : Except Denial (Option String))
    (decided : ((credential arbiter (Request.ofHttp incoming.method incoming.target
      incoming.headers incoming.peer)).run keys).run s = .ok ((result, held), after)) :
    ((direct arbiter backend incoming).run keys).run s = .ok ((match result with
      | .error denial => (incoming.target, .denied denial)
      | .ok credential => match backendTarget backend incoming.target with
        | .ok target => (target, .allowed credential)
        | .error denial => (incoming.target, .denied denial), held), after) := by
  refine (KeyAction.run_bind_ok _ _ keys s _).mpr ⟨result, held, after, decided, ?_⟩
  cases result with
  | error denial => rfl
  | ok credential =>
      cases backendTarget backend incoming.target with
      | error denial => rfl
      | ok target => rfl

theorem evaluate_unmatched (client : PolicyClient σ) (rules : RuleSet) (request : Request) (s : σ)
    (several : ∀ rule, rules.matching request.method request.matchUrl ≠ [rule]) :
    (evaluate client rules request).run s = .ok (⟨.error
      (RuleSet.undecided (rules.matching request.method request.matchUrl)), none, none⟩, s) := by
  unfold evaluate
  rw [plan_undecided rules request several]
  rfl

-- A request that was read is decided about, and the decision is that of the first step that fails.
theorem decide_warranted (arbiter : Arbiter σ) (backend : Url) (incoming : Http.Incoming)
    (request : Request) (keys : KeyManager) (s : σ)
    (read : Request.ofHttp incoming.method incoming.target incoming.headers incoming.peer =
      .ok request)
    (clock : arbiter.env.ClockHolds arbiter.issuer.lifespan) (answers : arbiter.policy.Answers) :
    ∃ decision held after,
      ((arbiter.decide request).run keys).run s = .ok ((decision, held), after) ∧
        match decision with
        | .error denial => Refused arbiter backend incoming keys s denial
        | .ok (session, credential) => ∃ a, Approves arbiter incoming s a ∧ a.session = session ∧
            Issues arbiter keys a (.ok credential) := by
  by_cases single : ∃ rule, arbiter.rules.matching request.method request.matchUrl = [rule]
  · obtain ⟨rule, found⟩ := single
    obtain ⟨⟨evaluation, asked⟩, evaluated⟩ := evaluate_ends _ arbiter.rules request answers s
    cases outcome : evaluation.outcome with
    | error denial =>
        refine ⟨.error denial, _, _, decide_denied arbiter request evaluation keys s asked denial
          evaluated outcome, ?_⟩
        exact .disapproved request rule evaluation asked denial read found evaluated outcome
    | ok session =>
        let a : Approval σ := ⟨request, rule, evaluation, session, asked⟩
        have approves : Approves arbiter incoming s a := ⟨read, found, evaluated, outcome⟩
        obtain ⟨⟨⟨credential, held⟩, after⟩, issued⟩ :=
          issue_ends arbiter.env arbiter.issuer session clock keys
            (afterReport arbiter.env evaluation asked)
        refine ⟨credential.map (session, ·), held, after,
          decide_issued arbiter a keys held s after credential evaluated outcome issued, ?_⟩
        cases credential with
        | error denial => exact .unsigned a denial approves ⟨held, after, issued⟩
        | ok credential => exact ⟨a, approves, rfl, held, after, issued⟩
  · have several : ∀ rule, arbiter.rules.matching request.method request.matchUrl ≠ [rule] :=
      fun rule found => single ⟨rule, found⟩
    have evaluated := evaluate_unmatched arbiter.policy arbiter.rules request s several
    exact ⟨_, _, _, decide_denied arbiter request _ keys s s _ evaluated rfl,
      .unmatched request read several⟩

theorem direct_warranted (arbiter : Arbiter σ) (backend : Url) (incoming : Http.Incoming)
    (keys : KeyManager) (s : σ) (clock : arbiter.env.ClockHolds arbiter.issuer.lifespan)
    (answers : arbiter.policy.Answers) :
    ∃ target verdict held after,
      ((direct arbiter backend incoming).run keys).run s = .ok (((target, verdict), held), after) ∧
        Warranted arbiter backend incoming keys s target verdict := by
  cases read : Request.ofHttp incoming.method incoming.target incoming.headers incoming.peer with
  | error denial =>
      have ran := direct_of_credential arbiter backend incoming keys keys s s (.error denial)
        (by rw [read]; rfl)
      exact ⟨_, _, _, _, ran, rfl, .unreadable denial read⟩
  | ok request =>
      obtain ⟨decision, held, after, decided, outcome⟩ :=
        decide_warranted arbiter backend incoming request keys s read clock answers
      have ran := direct_of_credential arbiter backend incoming keys held s after
        (decision.map fun decision => decision.2.map Token.render) (by
          rw [read]
          exact (KeyAction.run_bind_ok _ _ keys s _).mpr ⟨decision, held, after, decided, rfl⟩)
      rcases decision with denial | ⟨session, token⟩
      · exact ⟨_, _, _, _, ran, rfl, outcome⟩
      · obtain ⟨a, approves, -, issued⟩ := outcome
        cases targeted : backendTarget backend incoming.target with
        | error denial =>
            simp only [Except.map, targeted] at ran
            exact ⟨_, _, _, _, ran, rfl, .untargeted a token denial approves issued targeted⟩
        | ok target =>
            simp only [Except.map, targeted] at ran
            exact ⟨_, _, _, _, ran, ⟨a, token, target⟩, ⟨approves, issued, targeted⟩, rfl, rfl⟩

theorem direct_allowed (arbiter : Arbiter σ) (backend : Url) (incoming : Http.Incoming)
    (keys held : KeyManager) (s after : σ) (target : Http.Target) (token : Option String)
    (allowed : ((direct arbiter backend incoming).run keys).run s =
      .ok (((target, .allowed token), held), after)) :
    ∃ request decision,
      Request.ofHttp incoming.method incoming.target incoming.headers incoming.peer = .ok request ∧
      ((arbiter.decide request).run keys).run s = .ok ((.ok decision, held), after) ∧
      backendTarget backend incoming.target = .ok target := by
  obtain ⟨result, between, middle, decided, finished⟩ :=
    (KeyAction.run_bind_ok _ _ keys s _).mp allowed
  cases result with
  | error denial => cases finished
  | ok shown =>
      cases targeted : backendTarget backend incoming.target with
      | error denial =>
          simp only [targeted] at finished
          cases finished
      | ok placed =>
          simp only [targeted] at finished
          cases finished
          cases read : Request.ofHttp incoming.method incoming.target incoming.headers
              incoming.peer with
          | error denial =>
              rw [read] at decided
              cases decided
          | ok request =>
              rw [read] at decided
              obtain ⟨decision, held', after', ran, rest⟩ :=
                (KeyAction.run_bind_ok _ _ keys s _).mp decided
              cases decision with
              | error denial => cases rest
              | ok decision =>
                  cases rest
                  exact ⟨request, decision, rfl, ran, rfl⟩

end Proxy

end AccessGate
