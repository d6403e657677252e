import Mathlib.Algebra.Group.Nat.Defs
import AccessGate.Proofs.Mediation
import AccessGate.Proofs.Vouching

/-!
When a credential can be minted. The time at which it expires has to be one that the clock can hold; nothing
looks at that before the first credential is due, and beyond it there is no answer at all.
-/

namespace AccessGate

variable {σ : Type}

/-! ## Credentials -/

theorem claims_overflow (env : Environment σ) (session : Session) (issuer : String) (lifespan : Nat) (s : σ)
    (beyond : ¬ env.HoldsAt lifespan s) :
    (session.claims env issuer (.ofSeconds lifespan)).run s = .error .clockOverflow := by
  unfold Environment.HoldsAt at beyond
  simp [Session.claims, Environment.instant, Environment.octets, StateT.run, Bind.bind, StateT.bind,
    Except.bind, Session.claimsAt, Instant.after_ofSeconds, beyond, Except.map]

theorem issue_overflow (env : Environment σ) (issuer : Issuer) (session : Session) (keys : KeyManager)
    (s : σ) (minted : session.isBypassed = false) (beyond : ¬ env.HoldsAt issuer.lifespan s) :
    ((issuer.issue env session).run keys).run s = .error .clockOverflow := by
  unfold Issuer.issue
  rw [if_neg (by simp [minted])]
  exact KeyAction.run_bind_error _ _ keys s _
    (KeyAction.run_lift_error _ keys s _ (claims_overflow env session issuer.name issuer.lifespan s beyond))

theorem issue_ok_iff (env : Environment σ) (issuer : Issuer) (session : Session) (keys : KeyManager)
    (s : σ) :
    ((∃ result, ((issuer.issue env session).run keys).run s = .ok result) ↔
      session.isBypassed = true ∨ env.HoldsAt issuer.lifespan s) ∧
    ∀ crash, ((issuer.issue env session).run keys).run s = .error crash → crash = .clockOverflow := by
  by_cases held : session.isBypassed = true ∨ env.HoldsAt issuer.lifespan s
  · obtain ⟨result, issued⟩ := issue_held env issuer session keys s held
    refine ⟨iff_of_true ⟨result, issued⟩ held, fun crash crashed => ?_⟩
    cases issued.symm.trans crashed
  · rw [not_or, Bool.not_eq_true] at held
    have overflown := issue_overflow env issuer session keys s held.1 held.2
    constructor
    · refine iff_of_false ?_ (by simp [held.1, held.2])
      rintro ⟨result, issued⟩
      cases issued.symm.trans overflown
    · intro crash crashed
      cases overflown.symm.trans crashed
      rfl

/-! ## Requests -/

theorem Proxy.roundTrip_ends (env : Environment σ) (target : Http.Target) (incoming : Http.Incoming)
    (verdict : Option Verdict) : (roundTrip env target incoming verdict).Ends := by
  have forward_ends : ∀ credential, (forward env target incoming credential).Ends := by
    intro credential
    unfold forward
    cases outgoing target incoming credential with
    | error denial => exact Action.ends_pure _
    | ok request =>
        apply Action.ends_bind _ _ (Http.sendOnce_ends env request)
        intro answer
        cases answer with
        | error e => exact Action.ends_pure _
        | ok response => exact Action.ends_pure _
  rcases verdict with _ | ⟨credential⟩ | ⟨denial⟩
  · exact Action.ends_pure _
  · apply Action.ends_bind _ _ (forward_ends credential)
    intro answer
    cases answer with
    | error denial => exact Action.ends_pure _
    | ok response => exact Action.ends_pure _
  · exact Action.ends_pure _

namespace Entrance

theorem conclude_ends (env : Environment σ) (backend : Url) (incoming : Http.Incoming)
    (decision : Decision) (entrance : Entrance) :
    (entrance.conclude env backend incoming decision).Ends := by
  cases entrance with
  | proxy => exact Proxy.roundTrip_ends env _ incoming _
  | described => exact Action.ends_pure _
  | mirrored => exact Action.ends_pure _

def Grants (arbiter : Arbiter σ) (incoming : Http.Incoming) (s : σ) (session : Session) (before : σ)
    (entrance : Entrance) : Prop :=
  ∃ request evaluation asked, entrance.request incoming = .ok request ∧
    (evaluate arbiter.policy arbiter.rules request).run s = .ok (evaluation, asked) ∧
    evaluation.outcome = .ok session ∧ before = Proxy.afterReport arbiter.env evaluation asked

theorem serve_of_decided (arbiter : Arbiter σ) (backend : Url) (incoming : Http.Incoming)
    (entrance : Entrance) (request : Request) (keys held : KeyManager) (s between : σ)
    (decision : Decision) (read : entrance.request incoming = .ok request)
    (decided : ((arbiter.decide request).run keys).run s = .ok ((decision, held), between)) :
    ∃ result, ((entrance.serve arbiter backend incoming).run keys).run s = .ok result := by
  obtain ⟨⟨response, after⟩, concluded⟩ :=
    entrance.conclude_ends arbiter.env backend incoming decision between
  rw [serve_eq, read]
  exact ⟨_, (KeyAction.run_bind_ok _ _ keys s _).mpr
    ⟨decision, held, between, decided, KeyAction.run_lift_ok _ held between _ _ concluded⟩⟩

theorem serve_held (arbiter : Arbiter σ) (backend : Url) (incoming : Http.Incoming) (entrance : Entrance)
    (keys : KeyManager) (s : σ) (answers : arbiter.policy.Answers)
    (held : ∀ session before, entrance.Grants arbiter incoming s session before →
      session.isBypassed = true ∨ arbiter.env.HoldsAt arbiter.issuer.lifespan before) :
    ∃ result, ((entrance.serve arbiter backend incoming).run keys).run s = .ok result := by
  cases read : entrance.request incoming with
  | error refusal =>
      rw [serve_eq, read]
      exact ⟨_, rfl⟩
  | ok request =>
      obtain ⟨⟨evaluation, asked⟩, evaluated⟩ := evaluate_ends _ arbiter.rules request answers s
      cases outcome : evaluation.outcome with
      | error denial =>
          exact serve_of_decided arbiter backend incoming entrance request keys _ s _ _ read
            (Proxy.decide_denied arbiter request evaluation keys s asked denial evaluated outcome)
      | ok session =>
          have due := held session _ ⟨request, evaluation, asked, read, evaluated, outcome, rfl⟩
          obtain ⟨⟨⟨credential, kept⟩, between⟩, issued⟩ :=
            issue_held arbiter.env arbiter.issuer session keys _ due
          -- Which rule it was does not matter any more.
          exact serve_of_decided arbiter backend incoming entrance request keys _ s _ _ read
            (Proxy.decide_issued arbiter ⟨request, default, evaluation, session, asked⟩ keys kept s between
              credential evaluated outcome issued)

theorem serve_overflow (arbiter : Arbiter σ) (backend : Url) (incoming : Http.Incoming)
    (entrance : Entrance) (keys : KeyManager) (s before : σ) (session : Session)
    (granted : entrance.Grants arbiter incoming s session before) (minted : session.isBypassed = false)
    (beyond : ¬ arbiter.env.HoldsAt arbiter.issuer.lifespan before) :
    ((entrance.serve arbiter backend incoming).run keys).run s = .error .clockOverflow := by
  obtain ⟨request, evaluation, asked, read, evaluated, outcome, rfl⟩ := granted
  have ran := Proxy.session_run arbiter request evaluation s asked evaluated
  rw [outcome] at ran
  have crashed := issue_overflow arbiter.env arbiter.issuer session keys _ minted beyond
  have decided : ((arbiter.decide request).run keys).run s = .error .clockOverflow := by
    unfold Arbiter.decide
    rw [StateT.run_bind, StateT.run_bind, KeyAction.run_lift_ok _ keys s _ _ ran]
    exact KeyAction.run_bind_error _ (fun issued => pure (issued.map (session, ·))) keys _ _ crashed
  rw [serve_eq, read]
  exact KeyAction.run_bind_error _ _ keys s _ decided

theorem serve_ok_iff (arbiter : Arbiter σ) (backend : Url) (incoming : Http.Incoming)
    (entrance : Entrance) (keys : KeyManager) (s : σ) (answers : arbiter.policy.Answers) :
    ((∃ result, ((entrance.serve arbiter backend incoming).run keys).run s = .ok result) ↔
      ∀ session before, entrance.Grants arbiter incoming s session before →
        session.isBypassed = true ∨ arbiter.env.HoldsAt arbiter.issuer.lifespan before) ∧
    ∀ crash, ((entrance.serve arbiter backend incoming).run keys).run s = .error crash →
      crash = .clockOverflow := by
  by_cases held : ∀ session before, entrance.Grants arbiter incoming s session before →
      session.isBypassed = true ∨ arbiter.env.HoldsAt arbiter.issuer.lifespan before
  · obtain ⟨result, served⟩ := serve_held arbiter backend incoming entrance keys s answers held
    refine ⟨iff_of_true ⟨result, served⟩ held, fun crash crashed => ?_⟩
    cases served.symm.trans crashed
  · have unheld := held
    push Not at unheld
    obtain ⟨session, before, granted, minted, beyond⟩ := unheld
    have overflown := serve_overflow arbiter backend incoming entrance keys s before session granted
      (Bool.not_eq_true _ ▸ minted) beyond
    constructor
    · refine iff_of_false ?_ held
      rintro ⟨result, served⟩
      cases served.symm.trans overflown
    · intro crash crashed
      cases overflown.symm.trans crashed
      rfl

end Entrance

/-! ## Lifespans -/

/-- The same settings with credentials that hold for so many seconds. -/
def Settings.lasting (settings : Settings) (lifespan : Nat) : Settings :=
  { settings with credentials := { settings.credentials with lifespanSeconds := lifespan } }

theorem ofSettings_lasting (env : Environment σ) (settings : Settings) (gate : Gate σ) (s after : σ)
    (ready : (Gate.ofSettings env settings).run s = .ok (.ok gate, after)) (lifespan : Nat) :
    (Gate.ofSettings env (settings.lasting lifespan)).run s =
      .ok (.ok { gate with settings := settings.lasting lifespan }, after) := by
  unfold Gate.ofSettings at ready ⊢
  cases stored : Gate.storeOf settings.rules with
  | error e =>
      rw [stored] at ready
      cases ready
  | ok store =>
      have kept : Gate.storeOf (settings.lasting lifespan).rules = .ok store := stored
      rw [stored] at ready
      rw [kept]
      obtain ⟨made, between, keyed, finished⟩ := (Action.run_bind_ok _ _ s _).mp ready
      refine (Action.run_bind_ok _ _ s _).mpr ⟨made, between, keyed, ?_⟩
      cases made with
      | error e => cases finished
      | ok keys =>
          simp only [Except.bind, Gate.assemble] at finished ⊢
          split at finished
          · rename_i backend known
            cases finished
            have same : Url.parse (settings.lasting lifespan).backendUrl.toList = .ok backend := known
            rw [same]
            rfl
          · cases finished

/-- Any lifespan is accepted. A credential is then minted, or the failure told, just when the clock can hold
the time at which it expires, and a bypassed session never needs that; so a request is answered just when this
is so of the session that it is granted, if it is granted one. Otherwise it ends in a crash. -/
theorem minted_iff (env : Environment σ) :
    (∀ settings gate s after, (Gate.ofSettings env settings).run s = .ok (.ok gate, after) →
      ∀ lifespan, (Gate.ofSettings env (settings.lasting lifespan)).run s =
        .ok (.ok { gate with settings := settings.lasting lifespan }, after)) ∧
    (∀ (issuer : Issuer) session keys s,
      ((∃ result, ((issuer.issue env session).run keys).run s = .ok result) ↔
        session.isBypassed = true ∨ env.HoldsAt issuer.lifespan s) ∧
      ∀ crash, ((issuer.issue env session).run keys).run s = .error crash → crash = .clockOverflow) ∧
    ∀ gate, Gate.Reachable env gate → ∀ (entrance : Entrance) incoming s,
      ((∃ result, ((entrance.serve (gate.arbiter env) gate.backend incoming).run gate.keys).run s =
          .ok result) ↔
        ∀ session before, entrance.Grants (gate.arbiter env) incoming s session before →
          session.isBypassed = true ∨ env.HoldsAt gate.settings.credentials.lifespanSeconds before) ∧
      ∀ crash, ((entrance.serve (gate.arbiter env) gate.backend incoming).run gate.keys).run s =
        .error crash → crash = .clockOverflow := by
  refine ⟨ofSettings_lasting env, issue_ok_iff env, ?_⟩
  intro gate reachable entrance incoming s
  have answers : (gate.arbiter env).policy.Answers := by
    change gate.policy.Answers
    rw [(Gate.wired_of_reachable gate reachable).policy]
    exact overHttp_answers env _
  exact entrance.serve_ok_iff (gate.arbiter env) gate.backend incoming gate.keys s answers

/-! ## Up to the last second, and beyond it -/

/-- A rule that lets every request pass as nobody's, as it is stored. -/
def nobodySpec : RuleSpec := { Proxy.openSpec with mode := .anonymous }

def nobodyRule : Rule := { Proxy.openRule with mode := .anonymous }

/-- An outside that has that rule in its files. -/
def lenient : Environment Unit :=
  { Proxy.silent with
    fileContent := fun _ _ => (.ok (Utf8.encode (Json.Value.array [nobodySpec.toJson]).chars), ()) }

/-- A gate with that rule, whose credentials hold for so many seconds. -/
def lastingGate (lifespan : Nat) : Gate Unit :=
  { Proxy.openGate with
    settings := Proxy.openGate.settings.lasting lifespan
    policy := .overHttp lenient ⟨none, none, none⟩
    rules := [nobodyRule] }

theorem openGate_assembled : (Gate.ofSettings lenient Proxy.openGate.settings).run () =
    .ok (.ok { Proxy.openGate with policy := .overHttp lenient ⟨none, none, none⟩, rules := [] }, ()) := rfl

theorem lastingGate_assembled (lifespan : Nat) :
    (Gate.ofSettings lenient (Proxy.openGate.settings.lasting lifespan)).run () =
      .ok (.ok { lastingGate lifespan with rules := [] }, ()) :=
  ofSettings_lasting lenient _ _ () () openGate_assembled lifespan

theorem lastingGate_reachable (lifespan : Nat) : Gate.Reachable lenient (lastingGate lifespan) := by
  have delivered : (lastingGate lifespan).store.list lenient () = .ok (.ok [nobodySpec], ()) := by
    have read : (RuleStore.ofFile "rules.json" (lenient.fileContent "rules.json" ()).1).toOption =
        some [nobodySpec] := by decide +kernel
    change Except.ok (RuleStore.ofFile "rules.json" _, ()) = _
    cases found : RuleStore.ofFile "rules.json" (lenient.fileContent "rules.json" ()).1 with
    | error e =>
        rw [found] at read
        cases read
    | ok specs =>
        rw [found] at read
        cases read
        rfl
  have refreshed : (Gate.refreshRules lenient { lastingGate lifespan with rules := [] }).run () =
      .ok ((.ok 1, lastingGate lifespan), ()) :=
    (Action.run_bind_ok _ _ () _).mpr ⟨.ok [nobodySpec], (), delivered, rfl⟩
  exact .stepped (.assembled (lastingGate_assembled lifespan)) (.rulesRefreshed refreshed)

theorem lastingGate_grants (lifespan : Nat) : Entrance.mirrored.Grants
    ((lastingGate lifespan).arbiter lenient) shownCall () .anonymous () := by
  have read : (Judge.innerRequest shownCall).toOption.isSome = true := by
    decide +kernel
  cases inner : Judge.innerRequest shownCall with
  | error denial =>
      rw [inner] at read
      cases read
  | ok request =>
      have entered : Entrance.mirrored.request shownCall = .ok request := by
        simp only [Entrance.request, inner]
        rfl
      have single : RuleSet.matching [nobodyRule] request.method request.matchUrl = [nobodyRule] := by
        have matching : nobodyRule.isMatching request.method request.matchUrl = true :=
          Proxy.openRule_matches request.method request.matchUrl
        simp [RuleSet.matching, matching]
      refine ⟨request, ⟨.ok .anonymous, none, none⟩, (), entered, ?_, rfl, rfl⟩
      change (Evaluation.carryOut _ (Evaluation.plan [nobodyRule] request)).run () = _
      rw [plan_single _ request nobodyRule single]
      rfl

/-- From the epoch on a credential can hold until the clock's last second. -/
theorem minted_in_time :
    Gate.Reachable lenient (lastingGate Instant.lastSecond) ∧
    (Gate.ofSettings lenient (Proxy.openGate.settings.lasting Instant.lastSecond)).run () =
      .ok (.ok { lastingGate Instant.lastSecond with rules := [] }, ()) ∧
    ∃ result, ((Entrance.mirrored.serve ((lastingGate Instant.lastSecond).arbiter lenient)
      Proxy.openGate.backend shownCall).run Proxy.openGate.keys).run () = .ok result := by
  obtain ⟨accepted, -, served⟩ := minted_iff lenient
  have reachable := lastingGate_reachable Instant.lastSecond
  have again := accepted _ _ () () openGate_assembled Instant.lastSecond
  refine ⟨reachable, again, ?_⟩
  refine (served _ reachable .mirrored shownCall ()).1.mpr ?_
  intro session before granted
  have held : 0 + Instant.lastSecond ≤ Instant.lastSecond := by decide +kernel
  exact .inr held

theorem lifespan_overflows :
    (Gate.ofSettings lenient (Proxy.openGate.settings.lasting (2 ^ 64 - 1))).run () =
      .ok (.ok { lastingGate (2 ^ 64 - 1) with rules := [] }, ()) ∧
    (∀ keys, (((lastingGate (2 ^ 64 - 1)).issuer.issue lenient (.authenticated "a" "")).run keys).run () =
      .error .clockOverflow) ∧
    Gate.Reachable lenient (lastingGate (2 ^ 64 - 1)) ∧
    Entrance.mirrored.Grants ((lastingGate (2 ^ 64 - 1)).arbiter lenient) shownCall () .anonymous () ∧
    ((Entrance.mirrored.serve ((lastingGate (2 ^ 64 - 1)).arbiter lenient) Proxy.openGate.backend
      shownCall).run Proxy.openGate.keys).run () = .error .clockOverflow := by
  have beyond : ¬ 0 + (2 ^ 64 - 1) ≤ Instant.lastSecond := by decide +kernel
  have granted := lastingGate_grants (2 ^ 64 - 1)
  exact ⟨lastingGate_assembled _, fun keys => issue_overflow _ _ _ keys () rfl beyond,
    lastingGate_reachable _, granted, Entrance.serve_overflow _ _ _ _ _ () () _ granted rfl beyond⟩

end AccessGate
