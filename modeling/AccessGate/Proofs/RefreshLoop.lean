import AccessGate.Proofs.Clock
import AccessGate.Proofs.FirstLoad
import AccessGate.Proofs.OpenGate
import AccessGate.Proofs.UsableKey

/-!
The loops that refresh the rules and the key, over whole runs: attempts with any outcomes, pauses between
them, and whatever else happens to the gate meanwhile. Both are one loop, told apart by what an attempt
brings and where that is kept.
-/

namespace AccessGate

variable {σ δ κ : Type}

namespace Refresh

/-! ## Pauses -/

theorem nextDelay_zero (interval : Duration) : nextDelay interval 0 = interval := if_pos rfl

theorem total_nextDelay (interval : Duration) (failures : Nat) (some_ : 0 < failures) :
    (nextDelay interval failures).total = min interval.total ((failures + 1) * 1000000000) := by
  rw [nextDelay, if_neg (Nat.ne_of_gt some_), Duration.total_shorter, Duration.total_ofSeconds]

theorem nextDelay_bounds (interval : Duration) (second : 1000000000 ≤ interval.total) (failures : Nat) :
    1000000000 ≤ (nextDelay interval failures).total ∧
      (nextDelay interval failures).total ≤ interval.total := by
  rcases Nat.eq_zero_or_pos failures with rfl | some_
  · rw [nextDelay_zero]
    exact ⟨second, Nat.le_refl _⟩
  · rw [total_nextDelay interval failures some_]
    omega

theorem nextDelay_mono (interval : Duration) (fewer more : Nat) (some_ : 0 < fewer) (le : fewer ≤ more) :
    (nextDelay interval fewer).total ≤ (nextDelay interval more).total := by
  rw [total_nextDelay interval fewer some_, total_nextDelay interval more (Nat.lt_of_lt_of_le some_ le)]
  omega

/-! ## Failures in a row -/

/-- How many attempts failed at the end. -/
def trailing (succeeded : List Bool) : Nat := (succeeded.reverse.takeWhile (!·)).length

theorem trailing_snoc (succeeded : List Bool) (last : Bool) :
    trailing (succeeded ++ [last]) = if last then 0 else trailing succeeded + 1 := by
  cases last with
  | true => simp [trailing]
  | false => simp [trailing]

theorem failuresAfter_trailing (succeeded : List Bool) (last : Bool) :
    failuresAfter (min (trailing succeeded) maxFailures) last =
      min (trailing (succeeded ++ [last])) maxFailures := by
  rw [trailing_snoc]
  cases last with
  | true => simp [failuresAfter]
  | false =>
      simp only [failuresAfter, Bool.false_eq_true, if_false]
      omega

-- By induction on the later attempts, all of which failed.
theorem trailing_le_append (before behind : List Bool) (failed : ∀ succeeded ∈ behind, succeeded = false) :
    trailing before ≤ trailing (before ++ behind) := by
  induction behind generalizing before with
  | nil => exact Nat.le_of_eq (congrArg trailing (List.append_nil before).symm)
  | cons first rest ih =>
      obtain rfl : first = false := failed first List.mem_cons_self
      have later := ih (before ++ [false]) fun other inside => failed other (List.mem_cons_of_mem _ inside)
      rw [trailing_snoc, if_neg Bool.false_ne_true] at later
      rw [List.append_cons]
      exact Nat.le_trans (Nat.le_succ _) later

theorem trailing_pos_iff (succeeded : List Bool) :
    0 < trailing succeeded ↔ succeeded.getLast? = some false := by
  rcases List.eq_nil_or_concat succeeded with rfl | ⟨before, last, rfl⟩
  · simp [trailing]
  · rw [List.concat_eq_append, trailing_snoc, List.getLast?_concat]
    cases last with
    | true => simp
    | false => simp

/-! ## The two loops -/

/-- A loop: what an attempt brings, where in a gate it is kept, and what is dispatched when something was
brought. An attempt happens to the gate as one of its events. -/
structure Loop (σ δ κ : Type) where
  brings : δ → Option κ
  kept : Gate σ → κ
  notices : List String
  event : δ → Nat → Gate σ → Gate.Event
  happens : ∀ outcome failures gate, ∃ next, gate.after? (event outcome failures gate) = some next ∧
    kept next = (brings outcome).getD (kept gate)
  steps : ∀ outcome failures gate, (event outcome failures gate).busSteps =
    if (brings outcome).isSome then notices.map .dispatched else []

/-- Keeps the rules that a delivery of the store compiles to. -/
def rules (σ : Type) : Loop σ (Except RuleError (List RuleSpec)) RuleSet where
  brings delivered := (RuleSet.ofDelivery delivered).toOption
  kept gate := gate.rules
  notices := [Probe.rulesLoaded]
  event delivered failures _ := .ruleRound failures delivered
  happens delivered failures gate := by
    refine ⟨_, rfl, ?_⟩
    cases loaded : RuleSet.ofDelivery delivered with
    | ok rules =>
        simp only [RuleLoop.after, loaded]
        rfl
    | error e =>
        simp only [RuleLoop.after, loaded]
        rfl
  steps delivered failures _ := by
    cases loaded : RuleSet.ofDelivery delivered with
    | ok rules =>
        simp only [Gate.Event.busSteps, loaded]
        rfl
    | error e =>
        simp only [Gate.Event.busSteps, loaded]
        rfl

/-- A holder after an attempt to load its key. -/
def leave (keys : KeyManager) : Except KeyError SigningKey → KeyManager
  | .ok key => { keys with current := some key }
  | .error _ => keys

/-- Keeps the key that is loaded from its source. -/
def keys (σ : Type) : Loop σ (Except KeyError SigningKey) (Option SigningKey) where
  brings loaded := loaded.toOption.map some
  kept gate := gate.keys.current
  notices := []
  event loaded _ gate := .keysLeft (leave gate.keys loaded)
  happens loaded failures gate := by
    refine ⟨_, rfl, ?_⟩
    cases loaded with
    | ok key => rfl
    | error e => rfl
  steps loaded failures gate := (ite_self _).symm

/-! ## Runs -/

/-- What happens while a loop runs. -/
inductive Turn (δ : Type) where
  /-- An attempt came to its end. -/
  | attempted (outcome : δ)
  | rested
  | cancelled
  /-- Something else happened to the gate. -/
  | beside (event : Gate.Event)

namespace Turn

def outcome? : Turn δ → Option δ
  | attempted outcome => some outcome
  | _ => none

def isBeside : Turn δ → Bool
  | beside _ => true
  | _ => false

def isCancelled : Turn δ → Bool
  | cancelled => true
  | _ => false

end Turn

/-- A loop on its way, and the gate that it works on. -/
structure Course (σ : Type) where
  failures : Nat
  stage : Stage
  gate : Gate σ

def Course.start (gate : Gate σ) : Course σ := ⟨0, .attempting, gate⟩

namespace Loop

variable (loop : Loop σ δ κ) (interval : Duration)

/-- What the attempts came to. -/
def outcomes (turns : List (Turn δ)) : List δ := turns.filterMap Turn.outcome?

def succeeded (turns : List (Turn δ)) : List Bool :=
  (outcomes turns).map fun outcome => (loop.brings outcome).isSome

def brought (turns : List (Turn δ)) : List κ := (outcomes turns).filterMap loop.brings

/-- The course after a turn, if the turn can be. -/
def after? (course : Course σ) : Turn δ → Option (Course σ)
  | .attempted outcome => do
      let failures := failuresAfter course.failures (loop.brings outcome).isSome
      let stage ← course.stage.attempted? interval failures
      let gate ← course.gate.after? (loop.event outcome course.failures course.gate)
      return ⟨failures, stage, gate⟩
  | .rested => course.stage.rested?.map fun stage => { course with stage := stage }
  | .cancelled => course.stage.cancelled?.map fun stage => { course with stage := stage }
  | .beside event => (course.gate.after? event).map fun gate => { course with gate := gate }

def run (turns : List (Turn δ)) (course : Course σ) : Option (Course σ) :=
  turns.foldlM (loop.after? interval) course

/-- What a turn can do to a course: there is nothing else. -/
inductive Moves (course : Course σ) : Turn δ → Course σ → Prop
  | attempted (outcome : δ) (next : Gate σ) (attempting : course.stage = .attempting)
      (happened : course.gate.after? (loop.event outcome course.failures course.gate) = some next)
      (kept : loop.kept next = (loop.brings outcome).getD (loop.kept course.gate)) :
      Moves course (.attempted outcome)
        ⟨failuresAfter course.failures (loop.brings outcome).isSome,
          .resting (nextDelay interval (failuresAfter course.failures (loop.brings outcome).isSome)), next⟩
  | rested (pause : Duration) (resting : course.stage = .resting pause) :
      Moves course .rested { course with stage := .attempting }
  | cancelled (running : course.stage ≠ .ended) : Moves course .cancelled { course with stage := .ended }
  | beside (event : Gate.Event) (next : Gate σ) (happened : course.gate.after? event = some next) :
      Moves course (.beside event) { course with gate := next }

theorem moves_iff (course next : Course σ) (turn : Turn δ) :
    loop.after? interval course turn = some next ↔ loop.Moves interval course turn next := by
  obtain ⟨failures, stage, gate⟩ := course
  constructor
  · intro happened
    cases turn with
    | attempted outcome =>
        obtain ⟨reached, onwards, rest⟩ := Option.bind_eq_some_iff.mp happened
        obtain ⟨left, event, finished⟩ := Option.bind_eq_some_iff.mp rest
        obtain ⟨next, attempt, kept⟩ := loop.happens outcome failures gate
        cases finished
        cases stage with
        | attempting =>
            cases onwards
            cases attempt.symm.trans event
            exact .attempted outcome left rfl attempt kept
        | resting pause => cases onwards
        | ended => cases onwards
    | rested =>
        cases stage with
        | resting pause =>
            cases happened
            exact .rested pause rfl
        | attempting => cases happened
        | ended => cases happened
    | cancelled =>
        cases stage with
        | ended => cases happened
        | attempting =>
            cases happened
            exact .cancelled nofun
        | resting pause =>
            cases happened
            exact .cancelled nofun
    | beside event =>
        obtain ⟨left, event, rfl⟩ := Option.map_eq_some_iff.mp happened
        exact .beside _ left event
  · intro moves
    cases moves with
    | attempted outcome left attempting happened kept =>
        cases attempting
        simp only [after?, Stage.attempted?, happened]
        rfl
    | rested pause resting =>
        cases resting
        rfl
    | cancelled running =>
        cases stage with
        | ended => exact absurd rfl running
        | attempting => rfl
        | resting pause => rfl
    | beside event left happened => exact Option.map_eq_some_iff.mpr ⟨left, happened, rfl⟩

/-! ## What holds along a run -/

/-- A course after some turns. -/
structure Follows (turns : List (Turn δ)) (course : Course σ) : Prop where
  failures : course.failures = min (trailing (loop.succeeded turns)) maxFailures
  resting : ∀ pause, course.stage = .resting pause →
    loop.succeeded turns ≠ [] ∧ pause = nextDelay interval course.failures
  ended : course.stage = .ended ↔ turns.any Turn.isCancelled = true

theorem succeeded_append (before behind : List (Turn δ)) :
    loop.succeeded (before ++ behind) = loop.succeeded before ++ loop.succeeded behind := by
  simp [succeeded, outcomes]

theorem succeeded_quiet (before : List (Turn δ)) (turn : Turn δ) (quiet : turn.outcome? = none) :
    loop.succeeded (before ++ [turn]) = loop.succeeded before := by
  simp [succeeded, outcomes, quiet]

theorem follows_start (gate : Gate σ) : loop.Follows interval [] (.start gate) where
  failures := (Nat.zero_min _).symm
  resting := nofun
  ended := by simp [Course.start]

variable {loop interval}

theorem Follows.running {turns : List (Turn δ)} {course : Course σ}
    (follows : loop.Follows interval turns course) (running : course.stage ≠ .ended) :
    turns.any Turn.isCancelled = false :=
  Bool.eq_false_iff.mpr (mt follows.ended.mpr running)

theorem Follows.step {turns : List (Turn δ)} {course next : Course σ} {turn : Turn δ}
    (follows : loop.Follows interval turns course) (moves : loop.Moves interval course turn next) :
    loop.Follows interval (turns ++ [turn]) next := by
  cases moves with
  | attempted outcome left attempting happened kept =>
      have grown : loop.succeeded (turns ++ [.attempted outcome]) =
          loop.succeeded turns ++ [(loop.brings outcome).isSome] := loop.succeeded_append turns _
      have running := follows.running (by rw [attempting]; nofun)
      refine ⟨?_, ?_, ?_⟩
      · rw [grown, follows.failures]
        exact failuresAfter_trailing _ _
      · rintro pause same
        cases same
        rw [grown]
        exact ⟨by simp, rfl⟩
      · simpa [Turn.isCancelled] using running
  | rested pause resting =>
      have running := follows.running (by rw [resting]; nofun)
      refine ⟨?_, nofun, ?_⟩
      · rw [loop.succeeded_quiet turns _ rfl]
        exact follows.failures
      · simpa [Turn.isCancelled] using running
  | cancelled running =>
      refine ⟨?_, nofun, ?_⟩
      · rw [loop.succeeded_quiet turns _ rfl]
        exact follows.failures
      · simp [Turn.isCancelled]
  | beside event left happened =>
      refine ⟨?_, ?_, ?_⟩
      · rw [loop.succeeded_quiet turns _ rfl]
        exact follows.failures
      · rw [loop.succeeded_quiet turns _ rfl]
        exact follows.resting
      · rw [follows.ended]
        simp [Turn.isCancelled]

theorem Follows.run {before : List (Turn δ)} {course : Course σ}
    (follows : loop.Follows interval before course) (turns : List (Turn δ)) (after : Course σ)
    (ran : loop.run interval turns course = some after) :
    loop.Follows interval (before ++ turns) after := by
  induction turns generalizing before course with
  | nil =>
      cases ran
      rwa [List.append_nil]
  | cons turn rest ih =>
      obtain ⟨next, happened, onwards⟩ := Option.bind_eq_some_iff.mp ran
      rw [List.append_cons]
      exact ih (follows.step ((loop.moves_iff interval course next turn).mp happened)) onwards

variable (loop interval)

/-! ## What is kept -/

/-- Nothing that happens besides changes what the loop keeps. -/
def Undisturbed : List (Turn δ) → Course σ → Prop
  | [], _ => True
  | turn :: rest, course => ∀ next, loop.after? interval course turn = some next →
      (turn.isBeside = true → loop.kept next.gate = loop.kept course.gate) ∧ Undisturbed rest next

theorem brought_cons (turn : Turn δ) (rest : List (Turn δ)) :
    loop.brought (turn :: rest) = (turn.outcome?.bind loop.brings).toList ++ loop.brought rest := by
  cases turn with
  | attempted outcome =>
      cases brings : loop.brings outcome with
      | none => simp [brought, outcomes, Turn.outcome?, brings]
      | some value => simp [brought, outcomes, Turn.outcome?, brings]
  | _ => rfl

theorem kept_of_moves (course next : Course σ) (turn : Turn δ) (moves : loop.Moves interval course turn next)
    (quiet : turn.isBeside = true → loop.kept next.gate = loop.kept course.gate) :
    loop.kept next.gate = (turn.outcome?.bind loop.brings).getD (loop.kept course.gate) := by
  cases moves with
  | attempted outcome left attempting happened kept => exact kept
  | rested pause resting => rfl
  | cancelled running => rfl
  | beside event left happened => exact quiet rfl

theorem kept_run (turns : List (Turn δ)) (course after : Course σ)
    (undisturbed : loop.Undisturbed interval turns course)
    (ran : loop.run interval turns course = some after) :
    loop.kept after.gate = (loop.brought turns).getLast?.getD (loop.kept course.gate) := by
  induction turns generalizing course with
  | nil =>
      cases ran
      rfl
  | cons turn rest ih =>
      obtain ⟨next, happened, onwards⟩ := Option.bind_eq_some_iff.mp ran
      obtain ⟨quiet, later⟩ := undisturbed next happened
      have moved := loop.kept_of_moves interval course next turn
        ((loop.moves_iff interval course next turn).mp happened) quiet
      rw [ih next later onwards, moved, brought_cons]
      cases turn.outcome?.bind loop.brings with
      | none => rfl
      | some value => cases loop.brought rest <;> simp [List.getLast?_cons]

/-! ## What is dispatched -/

/-- What a turn does to the bus. -/
def busSteps : Turn δ → List Bus.Step
  | .attempted outcome => if (loop.brings outcome).isSome then loop.notices.map .dispatched else []
  | .beside event => event.busSteps
  | _ => []

theorem readiness_of_moves (course next : Course σ) (turn : Turn δ)
    (moves : loop.Moves interval course turn next) :
    course.gate.readiness.run (loop.busSteps turn) = some next.gate.readiness := by
  cases moves with
  | attempted outcome left attempting happened kept =>
      have stepped := Gate.readiness_of_event _ _ _ happened
      rwa [loop.steps] at stepped
  | rested pause resting => rfl
  | cancelled running => rfl
  | beside event left happened => exact Gate.readiness_of_event _ _ _ happened

theorem readiness_run (turns : List (Turn δ)) (course after : Course σ)
    (ran : loop.run interval turns course = some after) :
    course.gate.readiness.run (turns.flatMap loop.busSteps) = some after.gate.readiness := by
  induction turns generalizing course with
  | nil =>
      cases ran
      rfl
  | cons turn rest ih =>
      obtain ⟨next, happened, onwards⟩ := Option.bind_eq_some_iff.mp ran
      rw [List.flatMap_cons, Readiness.run_append,
        loop.readiness_of_moves interval course next turn
          ((loop.moves_iff interval course next turn).mp happened)]
      exact ih next onwards

theorem dispatches_turns (turns : List (Turn δ))
    (alone : ∀ failures delivered, .beside (.ruleRound failures delivered) ∉ turns) :
    Bus.dispatches (turns.flatMap loop.busSteps) = (loop.brought turns).flatMap fun _ => loop.notices := by
  induction turns with
  | nil => rfl
  | cons turn rest ih =>
      have later := ih fun failures delivered inside => alone failures delivered (List.mem_cons_of_mem _ inside)
      have first : Bus.dispatches (loop.busSteps turn) =
          (turn.outcome?.bind loop.brings).toList.flatMap fun _ => loop.notices := by
        cases turn with
        | attempted outcome =>
            cases brings : loop.brings outcome with
            | none => simp [busSteps, Turn.outcome?, brings, Bus.dispatches]
            | some value =>
                simp [busSteps, Turn.outcome?, brings, Bus.dispatches, List.filterMap_map, Function.comp_def,
                  Bus.Step.event?]
        | rested => rfl
        | cancelled => rfl
        | beside event =>
            cases event with
            | ruleRound failures delivered => exact absurd List.mem_cons_self (alone failures delivered)
            | _ => rfl
      rw [List.flatMap_cons, brought_cons, List.flatMap_append, ← later, ← first]
      exact List.filterMap_append

theorem length_brought (turns : List (Turn δ)) :
    (loop.brought turns).length = (loop.succeeded turns).count true := by
  unfold brought succeeded
  induction outcomes turns with
  | nil => rfl
  | cons outcome rest ih =>
      cases brings : loop.brings outcome with
      | none => simp [brings, ih]
      | some value => simp [brings, ih]

/-! ## A loop goes on -/

theorem attempt_possible (course : Course σ) (outcome : δ) (attempting : course.stage = .attempting) :
    ∃ next, loop.after? interval course (.attempted outcome) = some next ∧
      ∃ pause, next.stage = .resting pause := by
  obtain ⟨left, happened, kept⟩ := loop.happens outcome course.failures course.gate
  exact ⟨_, (loop.moves_iff interval course _ _).mpr (.attempted outcome left attempting happened kept),
    _, rfl⟩

theorem rest_possible (course : Course σ) (pause : Duration) (resting : course.stage = .resting pause) :
    loop.after? interval course .rested = some { course with stage := .attempting } :=
  (loop.moves_iff interval course _ _).mpr (.rested pause resting)

/-- An attempt for each outcome, with a pause behind it. -/
def rounds (outcomes : List δ) : List (Turn δ) :=
  outcomes.flatMap fun outcome => [.attempted outcome, .rested]

theorem run_rounds (outcomes : List δ) (course : Course σ) (attempting : course.stage = .attempting) :
    ∃ after, loop.run interval (rounds outcomes) course = some after ∧ after.stage = .attempting := by
  induction outcomes generalizing course with
  | nil => exact ⟨course, rfl, attempting⟩
  | cons outcome rest ih =>
      obtain ⟨next, tried, pause, resting⟩ := loop.attempt_possible interval course outcome attempting
      obtain ⟨after, onwards, still⟩ := ih { next with stage := .attempting } rfl
      refine ⟨after, Option.bind_eq_some_iff.mpr ⟨next, tried, ?_⟩, still⟩
      exact Option.bind_eq_some_iff.mpr ⟨_, loop.rest_possible interval next pause resting, onwards⟩

theorem undisturbed_of_quiet (turns : List (Turn δ)) (course : Course σ)
    (quiet : ∀ event, .beside event ∈ turns → ∀ gate next : Gate σ, gate.after? event = some next →
      loop.kept next = loop.kept gate) : loop.Undisturbed interval turns course := by
  induction turns generalizing course with
  | nil => exact trivial
  | cons turn rest ih =>
      intro next happened
      refine ⟨fun other => ?_, ih next fun event inside => quiet event (List.mem_cons_of_mem _ inside)⟩
      cases (loop.moves_iff interval course next turn).mp happened with
      | beside event left event_happened => exact quiet event List.mem_cons_self _ _ event_happened
      | _ => cases other

/-! ## Whole runs -/

/-- What a loop does, whatever its attempts come to and whatever else happens to the gate. -/
structure Steady : Prop where
  /-- The failures are counted from the last success on. -/
  counted : ∀ gate turns course, loop.run interval turns (.start gate) = some course →
    course.failures = min (trailing (loop.succeeded turns)) maxFailures
  paused : ∀ gate turns course pause, loop.run interval turns (.start gate) = some course →
    course.stage = .resting pause →
      1000000000 ≤ pause.total ∧ pause.total ≤ interval.total ∧
      ((loop.succeeded turns).getLast? = some true ∧ pause = interval ∨
        (loop.succeeded turns).getLast? = some false ∧
          pause.total = min interval.total ((course.failures + 1) * 1000000000))
  /-- From one failure to a later one with no success between them. -/
  growing : ∀ gate before between earlier later first second,
    loop.run interval before (.start gate) = some earlier →
    loop.run interval between earlier = some later →
    earlier.stage = .resting first → later.stage = .resting second →
    (loop.succeeded before).getLast? = some false → (∀ each ∈ loop.succeeded between, each = false) →
      first.total ≤ second.total
  /-- What the last success brought, or what was there before the first. -/
  kept : ∀ gate turns course, loop.run interval turns (.start gate) = some course →
    loop.Undisturbed interval turns (.start gate) →
      loop.kept course.gate = (loop.brought turns).getLast?.getD (loop.kept gate)
  ended : ∀ gate turns course, loop.run interval turns (.start gate) = some course →
    (course.stage = .ended ↔ turns.any Turn.isCancelled = true)
  going : ∀ course : Course σ, course.stage ≠ .ended →
    (∀ outcome, ∃ next, loop.after? interval course (.attempted outcome) = some next) ∨
      ∃ next, loop.after? interval course .rested = some next
  through : ∀ gate outcomes, ∃ course,
    loop.run interval (rounds outcomes) (.start gate) = some course ∧ course.stage = .attempting

theorem follows_of_run (gate : Gate σ) (turns : List (Turn δ)) (course : Course σ)
    (ran : loop.run interval turns (.start gate) = some course) : loop.Follows interval turns course :=
  (loop.follows_start interval gate).run turns course ran

variable {loop interval}

theorem Follows.failures_pos_iff {turns : List (Turn δ)} {course : Course σ}
    (follows : loop.Follows interval turns course) :
    0 < course.failures ↔ (loop.succeeded turns).getLast? = some false := by
  have room : 0 < maxFailures := by decide
  rw [← trailing_pos_iff, follows.failures]
  omega

theorem Follows.paused {turns : List (Turn δ)} {course : Course σ} (pause : Duration)
    (follows : loop.Follows interval turns course) (resting : course.stage = .resting pause) :
    (loop.succeeded turns).getLast? = some true ∧ pause = interval ∨
      (loop.succeeded turns).getLast? = some false ∧
        pause.total = min interval.total ((course.failures + 1) * 1000000000) := by
  obtain ⟨tried, same⟩ := follows.resting pause resting
  rw [same]
  rcases Nat.eq_zero_or_pos course.failures with none_ | some_
  · refine .inl ⟨?_, by rw [none_, nextDelay_zero]⟩
    have last : (loop.succeeded turns).getLast? ≠ some false := by
      rw [Ne, ← follows.failures_pos_iff, none_]
      exact Nat.lt_irrefl 0
    cases found : (loop.succeeded turns).getLast? with
    | none => exact absurd (List.getLast?_eq_none_iff.mp found) tried
    | some succeeded =>
        cases succeeded with
        | true => rfl
        | false => exact absurd found last
  · exact .inr ⟨follows.failures_pos_iff.mp some_, total_nextDelay interval _ some_⟩

variable (loop interval)

theorem steady (second : 1000000000 ≤ interval.total) : loop.Steady interval where
  counted gate turns course ran := (loop.follows_of_run interval gate turns course ran).failures
  paused gate turns course pause ran resting := by
    have follows := loop.follows_of_run interval gate turns course ran
    obtain ⟨least, most⟩ := nextDelay_bounds interval second course.failures
    rw [← (follows.resting pause resting).2] at least most
    exact ⟨least, most, follows.paused pause resting⟩
  growing gate before between earlier later first second ran onwards rests again failed failing := by
    have follows := loop.follows_of_run interval gate before earlier ran
    have after := follows.run between later onwards
    rw [(follows.resting first rests).2, (after.resting second again).2]
    apply nextDelay_mono interval _ _ (follows.failures_pos_iff.mpr failed)
    have longer := trailing_le_append (loop.succeeded before) (loop.succeeded between) failing
    rw [follows.failures, after.failures, succeeded_append]
    omega
  kept gate turns course ran undisturbed := loop.kept_run interval turns _ course undisturbed ran
  ended gate turns course ran := (loop.follows_of_run interval gate turns course ran).ended
  going course running := by
    cases stage : course.stage with
    | attempting =>
        refine .inl fun outcome => ?_
        obtain ⟨next, happened, -⟩ := loop.attempt_possible interval course outcome stage
        exact ⟨next, happened⟩
    | resting pause => exact .inr ⟨_, loop.rest_possible interval course pause stage⟩
    | ended => exact absurd stage running
  through gate outcomes := loop.run_rounds interval outcomes (.start gate) rfl

end Loop

/-! ## The gate's own rounds -/

theorem tell_ends (env : Environment σ) (failures : Nat) : (tell env failures).Ends := by
  unfold tell
  split
  · exact Action.ends_pure _
  · exact fun s => ⟨_, rfl⟩

theorem attempted_of_ruleRound (env : Environment σ) (interval : Duration) (gate : Gate σ) (failures : Nat)
    (s : σ) :
    ∃ delivered between count next after,
      (gate.store.list env).run s = .ok (delivered, between) ∧
      (gate.ruleRound env failures).run s = .ok ((count, next), after) ∧
      (rules σ).after? interval ⟨failures, .attempting, gate⟩ (.attempted delivered) =
        some ⟨count, .resting (nextDelay interval count), next⟩ := by
  obtain ⟨delivered, between, listed, -⟩ := RuleStore.list_reflected env gate.store s
  let loop := (RuleLoop.mk failures gate.rules gate.readiness).after delivered
  obtain ⟨⟨⟨⟩, after⟩, told⟩ := tell_ends env loop.failures between
  refine ⟨delivered, between, loop.failures, _, after, listed,
    (Action.run_bind_ok _ _ s _).mpr ⟨delivered, between, listed,
      (Action.run_bind_ok _ _ between _).mpr ⟨_, after, told, rfl⟩⟩, ?_⟩
  have counted : loop.failures = failuresAfter failures ((rules σ).brings delivered).isSome := by
    cases loaded : RuleSet.ofDelivery delivered with
    | ok active => simp [loop, RuleLoop.after, rules, loaded, Except.toOption]
    | error e => simp [loop, RuleLoop.after, rules, loaded, Except.toOption]
  rw [counted]
  rfl

theorem refresh_leaves (env : Environment σ) (keys : KeyManager) (loaded : Except KeyError SigningKey)
    (s after : σ) (load : (keys.source.load env).run s = .ok (loaded, after)) :
    ((KeyAction.refresh env).run keys).run s = .ok ((loaded.map fun _ => (), leave keys loaded), after) := by
  cases loaded with
  | ok key => exact KeyAction.refresh_ok env keys key s after load
  | error e => exact KeyAction.refresh_error env keys e s after load

theorem attempted_of_keyRound (env : Environment σ) (interval : Duration) (gate : Gate σ) (failures : Nat)
    (s : σ) :
    ∃ loaded between count next after,
      (gate.keys.source.load env).run s = .ok (loaded, between) ∧
      (gate.keyRound env failures).run s = .ok ((count, next), after) ∧
      (keys σ).after? interval ⟨failures, .attempting, gate⟩ (.attempted loaded) =
        some ⟨count, .resting (nextDelay interval count), next⟩ := by
  obtain ⟨⟨loaded, between⟩, load⟩ := load_ends env gate.keys.source s
  have left := refresh_leaves env gate.keys loaded s between load
  let count := failuresAfter failures (loaded.map fun _ => ()).toBool
  obtain ⟨⟨⟨⟩, after⟩, told⟩ := tell_ends env count between
  refine ⟨loaded, between, count, _, after, load,
    (Action.run_bind_ok _ _ s _).mpr
      ⟨_, between, (Action.run_bind_ok _ _ s _).mpr ⟨_, between, left, rfl⟩,
      (Action.run_bind_ok _ _ between _).mpr ⟨_, after, told, rfl⟩⟩, ?_⟩
  cases loaded with
  | ok key => rfl
  | error e => rfl

theorem rules_undisturbed (interval : Duration) (turns : List (Turn (Except RuleError (List RuleSpec))))
    (course : Course σ) (alone : ∀ failures delivered, .beside (.ruleRound failures delivered) ∉ turns)
    (byHand : ∀ delivered, .beside (.rulesRefreshed delivered) ∉ turns) :
    (rules σ).Undisturbed interval turns course := by
  apply (rules σ).undisturbed_of_quiet
  intro event inside gate next happened
  obtain ⟨same | ⟨failures, delivered, rfl⟩ | ⟨delivered, rfl⟩, -⟩ := gate.parts_of_event next event happened
  · exact same
  · exact absurd inside (alone failures delivered)
  · exact absurd inside (byHand delivered)

theorem keys_undisturbed (interval : Duration) (turns : List (Turn (Except KeyError SigningKey)))
    (course : Course σ) (alone : ∀ left, .beside (.keysLeft left) ∉ turns) :
    (keys σ).Undisturbed interval turns course := by
  apply (keys σ).undisturbed_of_quiet
  intro event inside gate next happened
  obtain ⟨-, same | ⟨left, rfl⟩⟩ := gate.parts_of_event next event happened
  · exact congrArg KeyManager.current same
  · exact absurd inside (alone left)

/-- Each success of the loop for the rules is told to the probes, and nothing else is. -/
theorem rules_told (interval : Duration) (gate : Gate σ)
    (turns : List (Turn (Except RuleError (List RuleSpec)))) (course : Course σ)
    (ran : (rules σ).run interval turns (.start gate) = some course)
    (alone : ∀ failures delivered, .beside (.ruleRound failures delivered) ∉ turns) :
    gate.readiness.run (turns.flatMap (rules σ).busSteps) = some course.gate.readiness ∧
      Bus.dispatches (turns.flatMap (rules σ).busSteps) =
        List.replicate (((rules σ).succeeded turns).count true) Probe.rulesLoaded := by
  refine ⟨(rules σ).readiness_run interval turns (.start gate) course ran, ?_⟩
  rw [Loop.dispatches_turns (rules σ) turns alone, ← Loop.length_brought, List.eq_replicate_iff]
  simp [rules]

theorem settings_second (settings : Settings) :
    1000000000 ≤ settings.ruleInterval.total ∧ 1000000000 ≤ settings.keyInterval.total := by
  simp only [Settings.ruleInterval, Settings.keyInterval, Settings.interval, Duration.total_ofSeconds]
  omega

/-- Both loops go on whatever their attempts come to: they count their failures, rest for as long as these
tell, and keep what the last success brought; each round of the gate is an attempt of theirs. -/
theorem refresh_steady (env : Environment σ) (interval : Duration) (second : 1000000000 ≤ interval.total) :
    (rules σ).Steady interval ∧ (keys σ).Steady interval ∧
    (∀ (gate : Gate σ) turns course, (rules σ).run interval turns (.start gate) = some course →
      (∀ failures delivered, .beside (.ruleRound failures delivered) ∉ turns) →
        gate.readiness.run (turns.flatMap (rules σ).busSteps) = some course.gate.readiness ∧
        Bus.dispatches (turns.flatMap (rules σ).busSteps) =
          List.replicate (((rules σ).succeeded turns).count true) Probe.rulesLoaded) ∧
    (∀ turns (course : Course σ),
      (∀ failures delivered, .beside (.ruleRound failures delivered) ∉ turns) →
      (∀ delivered, .beside (.rulesRefreshed delivered) ∉ turns) →
        (rules σ).Undisturbed interval turns course) ∧
    (∀ turns (course : Course σ), (∀ left, .beside (.keysLeft left) ∉ turns) →
      (keys σ).Undisturbed interval turns course) ∧
    (∀ (gate : Gate σ) failures s, ∃ delivered between count next after,
      (gate.store.list env).run s = .ok (delivered, between) ∧
      (gate.ruleRound env failures).run s = .ok ((count, next), after) ∧
      (rules σ).after? interval ⟨failures, .attempting, gate⟩ (.attempted delivered) =
        some ⟨count, .resting (nextDelay interval count), next⟩) ∧
    (∀ (gate : Gate σ) failures s, ∃ loaded between count next after,
      (gate.keys.source.load env).run s = .ok (loaded, between) ∧
      (gate.keyRound env failures).run s = .ok ((count, next), after) ∧
      (keys σ).after? interval ⟨failures, .attempting, gate⟩ (.attempted loaded) =
        some ⟨count, .resting (nextDelay interval count), next⟩) ∧
    ∀ settings : Settings,
      1000000000 ≤ settings.ruleInterval.total ∧ 1000000000 ≤ settings.keyInterval.total :=
  ⟨(rules σ).steady interval second, (keys σ).steady interval second, rules_told interval,
    rules_undisturbed interval, keys_undisturbed interval, attempted_of_ruleRound env interval,
    attempted_of_keyRound env interval, settings_second⟩

/-- One good delivery, then a store that is gone. -/
def outage : List (Turn (Except RuleError (List RuleSpec))) :=
  [.attempted (.ok []), .rested, .attempted (.error (.refreshFailed "gone")), .beside .watched, .rested,
    .attempted (.error (.refreshFailed "gone"))]

theorem refresh_steady_outage :
    1000000000 ≤ (Duration.ofSeconds 60).total ∧ ∃ course pause,
      (rules Unit).run (.ofSeconds 60) outage (.start Proxy.openGate) = some course ∧
      course.stage = .resting pause ∧ course.failures = 2 ∧ pause.total = 3000000000 ∧
      course.gate.rules = [] ∧
      Proxy.openGate.readiness.run (outage.flatMap (rules Unit).busSteps) = some course.gate.readiness ∧
      Bus.dispatches (outage.flatMap (rules Unit).busSteps) = [Probe.rulesLoaded] := by
  have second : 1000000000 ≤ (Duration.ofSeconds 60).total := by decide
  obtain ⟨steady, -, told, quiet, -, -, -, -⟩ := refresh_steady Proxy.silent (.ofSeconds 60) second
  obtain ⟨course, ran, pause, resting⟩ : ∃ course,
      (rules Unit).run (.ofSeconds 60) outage (.start Proxy.openGate) = some course ∧
        ∃ pause, course.stage = .resting pause := ⟨_, rfl, _, rfl⟩
  have alone : ∀ failures delivered, .beside (.ruleRound failures delivered) ∉ outage := by simp [outage]
  have undisturbed := quiet outage (.start Proxy.openGate) alone (by simp [outage])
  have trailed : trailing ((rules Unit).succeeded outage) = 2 := rfl
  have counted : course.failures = 2 := by
    rw [steady.counted _ outage course ran, trailed]
    decide
  obtain ⟨-, -, success | ⟨-, paused⟩⟩ := steady.paused _ outage course pause ran resting
  · cases success.1
  · rw [counted, Duration.total_ofSeconds, Nat.min_eq_right (by decide)] at paused
    obtain ⟨readiness, dispatched⟩ := told _ outage course ran alone
    exact ⟨second, course, pause, ran, resting, counted, paused, steady.kept _ outage course ran undisturbed,
      readiness, dispatched⟩

end Refresh

end AccessGate
