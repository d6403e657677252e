import AccessGate.Proofs.ActiveRules
import AccessGate.Proofs.EventBus
import AccessGate.Proofs.Reachable

/-!
When the gate is ready: from when the event of a first successful round of the rule loop has been routed,
and for good.
-/

namespace AccessGate

/-! ## The probe that waits for the rules -/

namespace Readiness

theorem isReady_iff (readiness : Readiness) (registry : readiness.registry = gate.registry) :
    readiness.isReady = true ↔ Probe.rulesLoaded ∈ readiness.received 0 := by
  obtain ⟨_, bus⟩ := readiness
  subst registry
  change List.isEmpty (List.filterMap (objectionAt ⟨gate.registry, bus⟩) [(Probe.rules, 0)]) = true ↔ _
  by_cases heard : Probe.rulesLoaded ∈ received ⟨gate.registry, bus⟩ 0
  · simp [objectionAt, Probe.rules, heard]
  · simp [objectionAt, Probe.rules, heard]

end Readiness

namespace Gate

variable {σ : Type}

/-! ## Events -/

/-- What happens to a gate, each at the moment at which it comes to its end. -/
inductive Event where
  /-- A round of the loop that keeps the rules, by what the store delivered. -/
  | ruleRound (failures : Nat) (delivered : Except RuleError (List RuleSpec))
  /-- A refresh by hand. -/
  | rulesRefreshed (delivered : Except RuleError (List RuleSpec))
  /-- A round of the loop that keeps the key, a refresh of the key or a request, by the key they leave. -/
  | keysLeft (keys : KeyManager)
  | stored (store : RuleStore)
  | watched
  | watchCancelled
  | stopped
  | admitted (index : Nat)
  | routed

/-- The gate after an event, if the event can be. -/
def after? (gate : Gate σ) : Event → Option (Gate σ)
  | .ruleRound failures delivered =>
      let loop := (RuleLoop.mk failures gate.rules gate.readiness).after delivered
      some { gate with rules := loop.active, readiness := loop.readiness }
  | .rulesRefreshed delivered => some { gate with rules := RuleSet.refreshed gate.rules delivered }
  | .keysLeft keys => some { gate with keys := keys }
  | .stored store => some { gate with store := store }
  | .watched => some { gate with readiness := gate.readiness.watch }
  | .watchCancelled =>
      some { gate with
        readiness := { gate.readiness with bus := gate.readiness.bus.watchCancelled } }
  | .stopped => some gate.stop
  | .admitted index =>
      (gate.readiness.bus.admit? index).map fun bus =>
        { gate with readiness := { gate.readiness with bus := bus } }
  | .routed =>
      gate.readiness.bus.route?.map fun bus =>
        { gate with readiness := { gate.readiness with bus := bus } }

def run (events : List Event) (gate : Gate σ) : Option (Gate σ) := events.foldlM after? gate

theorem run_cons (event : Event) (rest : List Event) (gate : Gate σ) :
    run (event :: rest) gate = (gate.after? event).bind (run rest) :=
  List.foldlM_cons

theorem run_append (first second : List Event) (gate : Gate σ) :
    run (first ++ second) gate = (run first gate).bind (run second) := by
  unfold run
  rw [List.foldlM_append]
  rfl

theorem parts_of_event (gate next : Gate σ) (event : Event) (happened : gate.after? event = some next) :
    (next.rules = gate.rules ∨ (∃ failures delivered, event = .ruleRound failures delivered) ∨
      ∃ delivered, event = .rulesRefreshed delivered) ∧
    (next.keys = gate.keys ∨ ∃ left, event = .keysLeft left) := by
  cases event with
  | ruleRound failures delivered =>
      cases happened
      exact ⟨.inr (.inl ⟨_, _, rfl⟩), .inl rfl⟩
  | rulesRefreshed delivered =>
      cases happened
      exact ⟨.inr (.inr ⟨_, rfl⟩), .inl rfl⟩
  | keysLeft left =>
      cases happened
      exact ⟨.inl rfl, .inr ⟨_, rfl⟩⟩
  | admitted index =>
      obtain ⟨bus, -, rfl⟩ := Option.map_eq_some_iff.mp happened
      exact ⟨.inl rfl, .inl rfl⟩
  | routed =>
      obtain ⟨bus, -, rfl⟩ := Option.map_eq_some_iff.mp happened
      exact ⟨.inl rfl, .inl rfl⟩
  | _ =>
      cases happened
      exact ⟨.inl rfl, .inl rfl⟩

/-- What an event does to the bus. Of all that can happen only a successful round tells the probes. -/
def Event.busSteps : Event → List Bus.Step
  | .ruleRound _ delivered =>
      match RuleSet.ofDelivery delivered with
      | .ok _ => [.dispatched Probe.rulesLoaded]
      | .error _ => []
  | .rulesRefreshed _ => []
  | .keysLeft _ => []
  | .stored _ => []
  | .watched => [.watched]
  | .watchCancelled => [.watchCancelled]
  | .stopped => [.cancelled]
  | .admitted index => [.admitted index]
  | .routed => [.routed]

theorem readiness_of_move (readiness next : Readiness) (step : Bus.Step) (moved : Option Bus)
    (stepped : Bus.step? readiness.registry.owners readiness.bus step = moved)
    (left : (moved.map fun bus => { readiness with bus := bus }) = some next) :
    readiness.run [step] = some next := by
  unfold Readiness.run Bus.run
  rw [List.foldlM_cons, stepped]
  cases moved with
  | none => cases left
  | some bus => exact left

theorem readiness_of_event (gate next : Gate σ) (event : Event)
    (happened : gate.after? event = some next) :
    gate.readiness.run event.busSteps = some next.readiness := by
  cases event with
  | ruleRound failures delivered =>
      cases happened
      cases loaded : RuleSet.ofDelivery delivered with
      | ok rules =>
          simp only [Event.busSteps, RuleLoop.after, loaded]
          rfl
      | error e =>
          simp only [Event.busSteps, RuleLoop.after, loaded]
          rfl
  | admitted index =>
      obtain ⟨bus, admitted, rfl⟩ := Option.map_eq_some_iff.mp happened
      exact readiness_of_move gate.readiness _ (.admitted index) (some bus) admitted rfl
  | routed =>
      obtain ⟨bus, routed, rfl⟩ := Option.map_eq_some_iff.mp happened
      exact readiness_of_move gate.readiness _ .routed (some bus) routed rfl
  | _ =>
      cases happened
      rfl

theorem readiness_of_run (events : List Event) (gate after : Gate σ)
    (ran : run events gate = some after) :
    gate.readiness.run (events.flatMap Event.busSteps) = some after.readiness := by
  induction events generalizing gate with
  | nil =>
      cases ran
      rfl
  | cons event rest ih =>
      obtain ⟨next, happened, onwards⟩ := Option.bind_eq_some_iff.mp ran
      rw [List.flatMap_cons, Readiness.run_append, readiness_of_event gate next event happened]
      exact ih next onwards

theorem round_of_dispatch (events : List Event) (event : String)
    (dispatched : event ∈ Bus.dispatches (events.flatMap Event.busSteps)) :
    event = Probe.rulesLoaded ∧ ∃ before failures delivered behind rules,
      events = before ++ .ruleRound failures delivered :: behind ∧
        RuleSet.ofDelivery delivered = .ok rules := by
  obtain ⟨step, taken, told⟩ := List.mem_filterMap.mp dispatched
  obtain ⟨cause, happened, effect⟩ := List.mem_flatMap.mp taken
  obtain ⟨before, behind, split⟩ := List.append_of_mem happened
  cases cause with
  | ruleRound failures delivered =>
      cases loaded : RuleSet.ofDelivery delivered with
      | error e => simp [Event.busSteps, loaded] at effect
      | ok rules =>
          simp only [Event.busSteps, loaded, List.mem_singleton] at effect
          subst effect
          cases told
          exact ⟨rfl, before, failures, delivered, behind, rules, split, loaded⟩
  | _ => simp_all [Event.busSteps, Bus.Step.event?]

/-! ## What was routed -/

theorem busSteps_others (event : Event) (other : event ≠ .routed) :
    ∀ step ∈ event.busSteps, step ≠ .routed := by
  cases event with
  | routed => exact absurd rfl other
  | ruleRound failures delivered =>
      cases loaded : RuleSet.ofDelivery delivered with
      | ok rules => simp [Event.busSteps, loaded]
      | error e => simp [Event.busSteps, loaded]
  | _ => simp [Event.busSteps]

theorem routed_others (gate next : Gate σ) (event : Event) (other : event ≠ .routed)
    (happened : gate.after? event = some next) :
    next.readiness.registry = gate.readiness.registry ∧
      next.readiness.bus.routed = gate.readiness.bus.routed := by
  obtain ⟨same, onwards⟩ := Readiness.run_some _ _ _ (readiness_of_event gate next event happened)
  exact ⟨same, Bus.routed_others _ _ _ _ (busSteps_others event other) onwards⟩

theorem routed_taken (gate next : Gate σ) (happened : gate.after? .routed = some next) :
    ∃ type place, gate.readiness.bus.buffer = some type ∧
      next.readiness.bus.routed = gate.readiness.bus.routed ++ [(type, place)] := by
  obtain ⟨bus, taken, rfl⟩ := Option.map_eq_some_iff.mp happened
  obtain ⟨owners, type, -, full, rfl⟩ := Bus.route_some _ _ taken
  exact ⟨type, _, full, rfl⟩

theorem routed_of_run (events : List Event) (gate after : Gate σ) (ran : run events gate = some after) :
    gate.readiness.bus.routed <+: after.readiness.bus.routed := by
  induction events generalizing gate with
  | nil =>
      cases ran
      exact List.prefix_rfl
  | cons event rest ih =>
      obtain ⟨next, happened, onwards⟩ := Option.bind_eq_some_iff.mp ran
      refine List.IsPrefix.trans ?_ (ih next onwards)
      by_cases taking : event = .routed
      · subst taking
        obtain ⟨type, place, -, grown⟩ := routed_taken gate next happened
        rw [grown]
        exact List.prefix_append _ _
      · exact (routed_others gate next event taking happened).2 ▸ List.prefix_rfl

theorem routed_from (events : List Event) (gate after : Gate σ) (ran : run events gate = some after)
    (entry : String × Option Nat) (routed : entry ∈ after.readiness.bus.routed) :
    entry ∈ gate.readiness.bus.routed ∨ ∃ before behind waiting,
      events = before ++ .routed :: behind ∧ run before gate = some waiting ∧
        waiting.readiness.bus.buffer = some entry.1 := by
  induction events generalizing gate with
  | nil =>
      cases ran
      exact .inl routed
  | cons event rest ih =>
      obtain ⟨next, happened, onwards⟩ := Option.bind_eq_some_iff.mp ran
      rcases ih next onwards with already | ⟨before, behind, waiting, rfl, there, full⟩
      · by_cases taking : event = .routed
        · subst taking
          obtain ⟨type, place, full, grown⟩ := routed_taken gate next happened
          rw [grown] at already
          rcases List.mem_append.mp already with old | new
          · exact .inl old
          · cases List.mem_singleton.mp new
            exact .inr ⟨[], rest, gate, rfl, rfl, full⟩
        · rw [(routed_others gate next event taking happened).2] at already
          exact .inl already
      · refine .inr ⟨event :: before, behind, waiting, rfl, ?_, full⟩
        exact Option.bind_eq_some_iff.mpr ⟨next, happened, there⟩

/-! ## From the assembled gate -/

theorem readiness_of_assembled (settings : Settings) (store : RuleStore) (policy : PolicyClient σ)
    (keys : KeyManager) (gate : Gate σ)
    (assembled : Gate.assemble settings store policy keys = .ok gate) : gate.readiness = .gate := by
  unfold Gate.assemble at assembled
  split at assembled
  · cases assembled
    rfl
  · cases assembled

/-- What holds of the readiness of a gate that has been through these events. -/
structure Waiting (events : List Event) (gate : Gate σ) : Prop where
  registry : gate.readiness.registry = Readiness.gate.registry
  accounted : Bus.Accounted Readiness.gate.registry.owners (events.flatMap Event.busSteps)
    gate.readiness.bus

theorem waiting_of_run (events : List Event) (gate after : Gate σ) (fresh : gate.readiness = .gate)
    (ran : run events gate = some after) : Waiting events after := by
  have onwards := readiness_of_run events gate after ran
  rw [fresh] at onwards
  obtain ⟨registry, moved⟩ := Readiness.run_some _ _ _ onwards
  refine ⟨registry, ?_⟩
  have accounted := (Bus.accounted_empty Readiness.gate.registry.owners).run _ _ moved
  rwa [List.nil_append] at accounted

theorem Waiting.round {events : List Event} {gate : Gate σ} (waiting : Waiting events gate)
    (event : String) (held : event ∈ gate.readiness.bus.held) :
    event = Probe.rulesLoaded ∧ ∃ before failures delivered behind rules,
      events = before ++ .ruleRound failures delivered :: behind ∧
        RuleSet.ofDelivery delivered = .ok rules := by
  obtain ⟨lost, placed, -⟩ := waiting.accounted.somewhere
  exact round_of_dispatch events event (placed.mem_iff.mp (List.mem_append_left lost held))

theorem Waiting.isReady_iff {events : List Event} {gate : Gate σ} (waiting : Waiting events gate) :
    gate.readiness.isReady = true ↔ ∃ entry, entry ∈ gate.readiness.bus.routed := by
  rw [Readiness.isReady_iff gate.readiness waiting.registry]
  constructor
  · intro heard
    obtain ⟨entry, routed, -⟩ := List.mem_filterMap.mp heard
    exact ⟨entry, routed⟩
  · rintro ⟨⟨type, place⟩, routed⟩
    have held : type ∈ gate.readiness.bus.held :=
      List.mem_append_right _ (List.mem_map.mpr ⟨_, routed, rfl⟩)
    obtain ⟨rfl, -⟩ := waiting.round type held
    cases waiting.accounted.owned _ routed
    exact List.mem_filterMap.mpr ⟨_, routed, rfl⟩

theorem loaded_of_delivery (delivered : Except RuleError (List RuleSpec)) (rules : RuleSet)
    (loaded : RuleSet.ofDelivery delivered = .ok rules) :
    ∃ specs, delivered = .ok specs ∧ Compiled specs rules := by
  cases delivered with
  | error e => cases loaded
  | ok specs => exact ⟨specs, rfl, (compile_ok_iff specs rules).mp loaded⟩

theorem rules_of_round (gate : Gate σ) (failures : Nat) (delivered : Except RuleError (List RuleSpec))
    (rules : RuleSet) (loaded : RuleSet.ofDelivery delivered = .ok rules) :
    ∃ next, gate.after? (.ruleRound failures delivered) = some next ∧ next.rules = rules := by
  refine ⟨_, rfl, ?_⟩
  simp only [RuleLoop.after, loaded]

theorem loaded_before (before : List Event) (gate waiting : Gate σ) (fresh : gate.readiness = .gate)
    (there : run before gate = some waiting) (type : String)
    (full : waiting.readiness.bus.buffer = some type) :
    type = Probe.rulesLoaded ∧ ∃ first failures specs rules between loaded,
      before = first ++ .ruleRound failures (.ok specs) :: between ∧ Compiled specs rules ∧
        run (first ++ [.ruleRound failures (.ok specs)]) gate = some loaded ∧
        loaded.rules = rules ∧ run between loaded = some waiting := by
  have held : type ∈ waiting.readiness.bus.held := by
    simp [Bus.held, full]
  obtain ⟨same, first, failures, delivered, between, rules, rfl, brought⟩ :=
    (waiting_of_run before gate waiting fresh there).round type held
  obtain ⟨specs, rfl, compiled⟩ := loaded_of_delivery delivered rules brought
  rw [List.append_cons, run_append] at there
  obtain ⟨loaded, reached, onwards⟩ := Option.bind_eq_some_iff.mp there
  refine ⟨same, first, failures, specs, rules, between, loaded, rfl, compiled, reached, ?_, onwards⟩
  rw [run_append] at reached
  obtain ⟨gate', -, round⟩ := Option.bind_eq_some_iff.mp reached
  obtain ⟨next, happened, replaced⟩ := rules_of_round gate' failures (.ok specs) rules brought
  rw [run_cons, happened] at round
  cases round
  exact replaced

theorem isReady_others (gate next : Gate σ) (event : Event) (other : event ≠ .routed)
    (happened : gate.after? event = some next) : next.readiness.isReady = gate.readiness.isReady := by
  obtain ⟨registry, routed⟩ := routed_others gate next event other happened
  unfold Readiness.isReady Readiness.objections Readiness.objectionAt Readiness.received
  rw [registry, routed]

/-- Readiness follows the first load. However the events mix, the gate is ready just when a round of the rule
loop was successful, which left its whole list in place, and then the event that told of it was routed; nothing
else makes it ready, and it stays so whatever comes after. -/
theorem ready_follows_load (settings : Settings) (store : RuleStore) (policy : PolicyClient σ)
    (keys : KeyManager) (gate : Gate σ)
    (assembled : Gate.assemble settings store policy keys = .ok gate) (events : List Event)
    (after : Gate σ) (ran : run events gate = some after) :
    (after.readiness.isReady = true ↔
        ∃ before failures specs rules between behind loaded waiting,
          events = before ++ .ruleRound failures (.ok specs) :: (between ++ .routed :: behind) ∧
            Compiled specs rules ∧
            run (before ++ [.ruleRound failures (.ok specs)]) gate = some loaded ∧
            loaded.rules = rules ∧ run between loaded = some waiting ∧
            waiting.readiness.bus.buffer = some Probe.rulesLoaded) ∧
      (∀ event next, after.after? event = some next → event ≠ .routed →
        next.readiness.isReady = after.readiness.isReady) ∧
      ∀ more final, run more after = some final → after.readiness.isReady = true →
        final.readiness.isReady = true := by
  have fresh := readiness_of_assembled settings store policy keys gate assembled
  have waiting := waiting_of_run events gate after fresh ran
  refine ⟨?_, ?_, ?_⟩
  · rw [waiting.isReady_iff]
    constructor
    · rintro ⟨entry, routed⟩
      rcases routed_from events gate after ran entry routed with old | later
      · rw [fresh] at old
        cases old
      · obtain ⟨until_, behind, at_, rfl, there, full⟩ := later
        obtain ⟨same, before, failures, specs, rules, between, loaded, rfl, compiled, reached, replaced,
          onwards⟩ := loaded_before until_ gate at_ fresh there entry.1 full
        rw [same] at full
        refine ⟨before, failures, specs, rules, between, behind, loaded, at_, ?_, compiled, reached,
          replaced, onwards, full⟩
        rw [List.append_assoc, List.cons_append]
    · rintro ⟨before, failures, specs, rules, between, behind, loaded, at_, rfl, -, reached, -, onwards,
        full⟩
      rw [List.append_cons, run_append, reached, Option.bind_some] at ran
      rw [run_append, onwards, Option.bind_some, run_cons] at ran
      obtain ⟨next, happened, rest⟩ := Option.bind_eq_some_iff.mp ran
      obtain ⟨type, place, -, grown⟩ := routed_taken at_ next happened
      refine ⟨(type, place), (routed_of_run behind next after rest).subset ?_⟩
      rw [grown]
      exact List.mem_append_right _ List.mem_cons_self
  · intro event next happened other
    exact isReady_others after next event other happened
  · intro more final onwards ready
    obtain ⟨entry, routed⟩ := waiting.isReady_iff.mp ready
    have further : run (events ++ more) gate = some final := by
      rw [run_append, ran]
      exact onwards
    rw [(waiting_of_run (events ++ more) gate final fresh further).isReady_iff]
    exact ⟨entry, (routed_of_run more after final onwards).subset routed⟩

/-- A refresh by hand and a round that fails come before a round that is successful; the loops are started,
stopped and started again, and a later round fails. -/
def eventful : List Event :=
  [.rulesRefreshed (.ok [Proxy.openSpec]), .ruleRound 0 (.error (.refreshFailed "gone")),
    .ruleRound 1 (.ok [Proxy.openSpec]), .watched, .routed]

theorem ready_follows_load_open :
    ∃ after final : Gate Unit, run eventful { Proxy.openGate with rules := [] } = some after ∧
      run [.ruleRound 0 (.error (.refreshFailed "gone")), .stopped, .watched] after = some final ∧
      final.readiness.isReady = true ∧
      (∀ next, after.after? .stopped = some next → next.readiness.isReady = true) ∧
      ∃ before failures specs rules, Event.ruleRound failures (.ok specs) ∈ before ∧
        Compiled specs rules ∧ before <+: eventful := by
  obtain ⟨after, ran, ready⟩ : ∃ after : Gate Unit,
      run eventful { Proxy.openGate with rules := [] } = some after ∧
        after.readiness.isReady = true := ⟨_, rfl, rfl⟩
  obtain ⟨final, onwards⟩ : ∃ final : Gate Unit,
      run [.ruleRound 0 (.error (.refreshFailed "gone")), .stopped, .watched] after = some final :=
    ⟨_, rfl⟩
  obtain ⟨loaded, others, latched⟩ := ready_follows_load Proxy.openGate.settings Proxy.openGate.store
    Proxy.openGate.policy Proxy.openGate.keys { Proxy.openGate with rules := [] } rfl eventful after ran
  obtain ⟨before, failures, specs, rules, between, behind, -, -, split, compiled, -⟩ := loaded.mp ready
  refine ⟨after, final, ran, onwards, latched _ final onwards ready, ?_, ?_⟩
  · intro next stopped
    rw [others .stopped next stopped nofun]
    exact ready
  · refine ⟨before ++ [.ruleRound failures (.ok specs)], failures, specs, rules, by simp, compiled,
      between ++ .routed :: behind, ?_⟩
    rw [split, List.append_assoc, List.singleton_append]

/-! ## The gate's own steps -/

theorem event_of_ruleRound (env : Environment σ) (gate next : Gate σ) (failures count : Nat)
    (s after : σ) (ran : (gate.ruleRound env failures).run s = .ok ((count, next), after)) :
    ∃ delivered, gate.after? (.ruleRound failures delivered) = some next := by
  obtain ⟨delivered, between, -, told⟩ := (Action.run_bind_ok _ _ s _).mp ran
  obtain ⟨⟨⟩, later, -, finished⟩ := (Action.run_bind_ok _ _ between _).mp told
  cases finished
  exact ⟨delivered, rfl⟩

theorem event_of_withKeys (gate next : Gate σ) (action : KeyAction σ α) (value : α) (s after : σ)
    (ran : (gate.withKeys action).run s = .ok ((value, next), after)) :
    ∃ keys, gate.after? (.keysLeft keys) = some next := by
  obtain ⟨⟨result, keys⟩, between, -, finished⟩ := (Action.run_bind_ok _ _ s _).mp ran
  cases finished
  exact ⟨keys, rfl⟩

theorem event_of_keyRound (env : Environment σ) (gate next : Gate σ) (failures count : Nat)
    (s after : σ) (ran : (gate.keyRound env failures).run s = .ok ((count, next), after)) :
    ∃ keys, gate.after? (.keysLeft keys) = some next := by
  obtain ⟨⟨result, refreshed⟩, between, refresh, told⟩ := (Action.run_bind_ok _ _ s _).mp ran
  obtain ⟨⟨⟩, later, -, finished⟩ := (Action.run_bind_ok _ _ between _).mp told
  cases finished
  exact event_of_withKeys gate next _ result s between refresh

/-- All that a gate does is one of the events, with the outcomes that there can be. -/
theorem event_of_step (env : Environment σ) (gate next : Gate σ) (step : Step env gate next) :
    ∃ event, gate.after? event = some next := by
  cases step with
  | rulesRefreshed ran =>
      obtain ⟨delivered, between, -, finished⟩ := (Action.run_bind_ok _ _ _ _).mp ran
      cases finished
      exact ⟨.rulesRefreshed delivered, rfl⟩
  | keysRefreshed ran =>
      obtain ⟨keys, left⟩ := event_of_withKeys gate next _ _ _ _ ran
      exact ⟨_, left⟩
  | ruleRound ran =>
      obtain ⟨delivered, round⟩ := event_of_ruleRound env gate next _ _ _ _ ran
      exact ⟨_, round⟩
  | keyRound ran =>
      obtain ⟨keys, left⟩ := event_of_keyRound env gate next _ _ _ _ ran
      exact ⟨_, left⟩
  | apiServed ran =>
      obtain ⟨keys, left⟩ := event_of_withKeys gate next _ _ _ _ ran
      exact ⟨_, left⟩
  | proxyServed ran =>
      obtain ⟨cors, between, -, rest⟩ := (Action.run_bind_ok _ _ _ _).mp ran
      cases cors with
      | error e =>
          cases rest
          exact ⟨.keysLeft gate.keys, rfl⟩
      | ok policy =>
          obtain ⟨⟨answer, served⟩, later, answered, finished⟩ :=
            (Action.run_bind_ok _ _ between _).mp rest
          cases finished
          obtain ⟨keys, left⟩ := event_of_withKeys gate next _ answer between _ answered
          exact ⟨_, left⟩
  | watched => exact ⟨.watched, rfl⟩
  | routed taken => exact ⟨.routed, Option.map_eq_some_iff.mpr ⟨_, taken, rfl⟩⟩
  | admitted found => exact ⟨.admitted _, Option.map_eq_some_iff.mpr ⟨_, found, rfl⟩⟩
  | stopped => exact ⟨.stopped, rfl⟩

theorem events_of_steps (steps : List Bus.Step) (own : ∀ step ∈ steps, step.isOwn = true)
    (gate : Gate σ) (bus : Bus)
    (ran : Bus.run gate.readiness.registry.owners steps gate.readiness.bus = some bus) :
    ∃ events, run events gate =
      some { gate with readiness := { gate.readiness with bus := bus } } := by
  induction steps generalizing gate with
  | nil =>
      cases ran
      exact ⟨[], rfl⟩
  | cons step rest ih =>
      obtain ⟨next, stepped, onwards⟩ := Option.bind_eq_some_iff.mp ran
      obtain ⟨event, happened⟩ : ∃ event, gate.after? event =
          some { gate with readiness := { gate.readiness with bus := next } } := by
        cases step with
        | admitted index => exact ⟨.admitted index, Option.map_eq_some_iff.mpr ⟨_, stepped, rfl⟩⟩
        | routed => exact ⟨.routed, Option.map_eq_some_iff.mpr ⟨_, stepped, rfl⟩⟩
        | _ => cases own _ List.mem_cons_self
      obtain ⟨events, later⟩ := ih (fun other member => own other (List.mem_cons_of_mem step member))
        { gate with readiness := { gate.readiness with bus := next } } onwards
      exact ⟨event :: events, Option.bind_eq_some_iff.mpr ⟨_, happened, later⟩⟩

theorem events_of_start (env : Environment σ) (gate next : Gate σ) (s after : σ)
    (ran : (gate.start env).run s = .ok (next, after)) : ∃ events, run events gate = some next := by
  obtain ⟨⟨failures, loaded⟩, between, round, rest⟩ := (Action.run_bind_ok _ _ s _).mp ran
  obtain ⟨⟨missed, keyed⟩, later, keys, finished⟩ := (Action.run_bind_ok _ _ between _).mp rest
  cases finished
  obtain ⟨delivered, first⟩ := event_of_ruleRound env _ loaded _ _ _ _ round
  obtain ⟨left, second⟩ := event_of_keyRound env loaded keyed _ _ _ _ keys
  obtain ⟨steps, own, settled⟩ :=
    Bus.settled_run keyed.readiness.registry.owners keyed.readiness.bus
  obtain ⟨events, onwards⟩ := events_of_steps steps own keyed _ settled
  refine ⟨.watched :: .ruleRound 0 delivered :: .keysLeft left :: events, ?_⟩
  have started : gate.after? .watched = some { gate with readiness := gate.readiness.watch } := rfl
  rw [run_cons, started, Option.bind_some, run_cons, first, Option.bind_some, run_cons, second]
  exact onwards

end Gate

end AccessGate
