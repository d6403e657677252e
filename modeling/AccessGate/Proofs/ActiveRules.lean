import AccessGate.Proofs.OpenGate
import AccessGate.Proofs.PolicyCalls
import Mathlib.Data.List.Forall2

/-!
The active rules over time. Whatever happens to the store and outside, the active rules are those of
the last list that arrived and compiled as a whole, and who took a set keeps it.
-/

namespace AccessGate

variable {σ : Type}

/-! ## Compiling -/

/-- What holds of every rule that is active. -/
structure Rule.Sound (rule : Rule) : Prop where
  named : ∃ c ∈ rule.id.toList, Text.isBlank c = false
  searchable : Pattern.compile rule.url.toList = .ok rule.pattern
  templated : rule.mode = .policy → rule.action ≠ "" ∧ rule.resource ≠ ""

theorem Rule.compile_ok (spec : RuleSpec) (rule : Rule) (compiled : Rule.compile spec = .ok rule) :
    Text.isBlankText spec.id.toList = false ∧
      (spec.mode = .policy → spec.action ≠ "" ∧ spec.resource ≠ "") ∧
      ∃ pattern, Pattern.compile spec.url.toList = .ok pattern ∧
        rule = ⟨spec.id, spec.description, .ofList spec.methods, spec.url, pattern, spec.mode,
          spec.action, spec.resource, spec.scopes⟩ := by
  unfold Rule.compile at compiled
  by_cases blank : Text.isBlankText spec.id.toList = true
  · rw [if_pos blank] at compiled
    cases compiled
  · rw [if_neg blank] at compiled
    by_cases bare : spec.mode = .policy ∧ (spec.action = "" ∨ spec.resource = "")
    · rw [if_pos bare] at compiled
      cases compiled
    · rw [if_neg bare] at compiled
      cases read : Pattern.compile spec.url.toList with
      | error e =>
          rw [read] at compiled
          cases compiled
      | ok pattern =>
          rw [read] at compiled
          cases compiled
          refine ⟨Bool.eq_false_iff.mpr blank, ?_, pattern, rfl, rfl⟩
          intro gated
          exact ⟨fun empty => bare ⟨gated, .inl empty⟩, fun empty => bare ⟨gated, .inr empty⟩⟩

theorem sound_of_compile (spec : RuleSpec) (rule : Rule) (compiled : Rule.compile spec = .ok rule) :
    rule.Sound := by
  obtain ⟨named, templated, pattern, searchable, rfl⟩ := rule.compile_ok spec compiled
  exact ⟨by simpa [Text.isBlankText] using named, searchable, templated⟩

/-- The rules are those of the list, one by one. -/
def Compiled (specs : List RuleSpec) (rules : RuleSet) : Prop :=
  List.Forall₂ (fun spec rule => Rule.compile spec = .ok rule) specs rules

theorem compile_cons (spec : RuleSpec) (rest : List RuleSpec) :
    RuleSet.compile (spec :: rest) = (Rule.compile spec).bind fun rule =>
      (RuleSet.compile rest).map (rule :: ·) := by
  unfold RuleSet.compile
  rw [List.mapM_cons]
  cases Rule.compile spec with
  | error e => rfl
  | ok rule =>
      cases rest.mapM Rule.compile with
      | error e => rfl
      | ok rules => rfl

-- By induction on the list, as it is compiled.
theorem compile_ok_iff (specs : List RuleSpec) (rules : RuleSet) :
    RuleSet.compile specs = .ok rules ↔ Compiled specs rules := by
  induction specs generalizing rules with
  | nil =>
      constructor
      · intro compiled
        cases compiled
        exact .nil
      · intro compiled
        cases compiled
        rfl
  | cons spec rest ih =>
      rw [compile_cons]
      constructor
      · intro compiled
        cases first : Rule.compile spec with
        | error e =>
            rw [first] at compiled
            cases compiled
        | ok rule =>
            rw [first] at compiled
            cases others : RuleSet.compile rest with
            | error e =>
                rw [others] at compiled
                cases compiled
            | ok found =>
                rw [others] at compiled
                cases compiled
                exact .cons first ((ih found).mp others)
      · intro compiled
        cases compiled with
        | cons first others =>
            rw [first, (ih _).mpr others]
            rfl

/-- The first specification of a list that does not compile, with its error. -/
def FirstBad (specs : List RuleSpec) (e : RuleError) : Prop :=
  ∃ fine bad rest, specs = fine ++ bad :: rest ∧ (∃ rules, Compiled fine rules) ∧
    Rule.compile bad = .error e

theorem compile_error (specs : List RuleSpec) (e : RuleError)
    (failed : RuleSet.compile specs = .error e) : FirstBad specs e := by
  induction specs with
  | nil => cases failed
  | cons spec rest ih =>
      rw [compile_cons] at failed
      cases first : Rule.compile spec with
      | error other =>
          rw [first] at failed
          cases failed
          exact ⟨[], spec, rest, rfl, ⟨[], .nil⟩, first⟩
      | ok rule =>
          rw [first] at failed
          cases others : RuleSet.compile rest with
          | error other =>
              rw [others] at failed
              cases failed
              obtain ⟨fine, bad, last, rfl, ⟨rules, compiled⟩, wrong⟩ := ih others
              exact ⟨spec :: fine, bad, last, rfl, ⟨rule :: rules, .cons first compiled⟩, wrong⟩
          | ok rules =>
              rw [others] at failed
              cases failed

theorem sound_of_compiled (specs : List RuleSpec) (rules : RuleSet)
    (compiled : Compiled specs rules) : ∀ rule ∈ rules, rule.Sound := by
  induction compiled with
  | nil => simp
  | cons first others ih =>
      intro rule member
      rcases List.mem_cons.mp member with rfl | later
      · exact sound_of_compile _ _ first
      · exact ih rule later

/-! ## Stores -/

namespace RuleStore

/-- A store has a list to give: in memory, in a file that can be read, or in the last response of its
service. -/
def Holds (env : Environment σ) (s : σ) (specs : List RuleSpec) : RuleStore → Prop
  | .memory rules => specs = rules
  | .file path => ∃ octets text, (env.fileContent path s).1 = .ok octets ∧
      Utf8.decode? octets = some text ∧
      (Json.Document.ofChars text).read RuleSpec.decodeList = .ok specs
  | .http baseUrl => ∃ reply after,
      (lastResponse env (some (Http.Outgoing.ofText .get (rulesUrl baseUrl)))).run s =
        .ok (reply, after) ∧ Delivers RuleSpec.decodeList reply specs

/-- A delivery is the list of the store, or a failure of the refresh. -/
structure Reflected (env : Environment σ) (s : σ) (store : RuleStore)
    (delivered : Except RuleError (List RuleSpec)) : Prop where
  ok_iff : ∀ specs, delivered = .ok specs ↔ store.Holds env s specs
  failure : ∀ e, delivered = .error e → ∃ reason, e = .refreshFailed reason

theorem ofFile_reflected (env : Environment σ) (s : σ) (path : String) :
    Reflected env s (.file path) (ofFile path (env.fileContent path s).1) := by
  cases found : (env.fileContent path s).1 with
  | error reason =>
      constructor
      · simp [ofFile, Holds, found]
      · simp [ofFile]
  | ok octets =>
      cases decoded : Utf8.decode? octets with
      | none =>
          constructor
          · simp [ofFile, Holds, found, decoded]
          · simp [ofFile, decoded]
      | some text =>
          cases read : (Json.Document.ofChars text).read RuleSpec.decodeList with
          | error e =>
              constructor
              · simp [ofFile, Holds, found, decoded, read]
              · simp [ofFile, decoded, read]
          | ok specs =>
              constructor
              · simp [ofFile, Holds, found, decoded, read]
              · simp [ofFile, decoded, read]

theorem ofAnswer_reflected (env : Environment σ) (s after : σ) (baseUrl : String)
    (answer : Except Http.SendError Http.Response)
    (fetched : (Http.fetch env (Http.Outgoing.ofText .get (rulesUrl baseUrl))).run s =
      .ok (answer, after)) :
    Reflected env s (.http baseUrl) (ofAnswer (rulesUrl baseUrl) answer) := by
  have asked : (lastResponse env (some (Http.Outgoing.ofText .get (rulesUrl baseUrl)))).run s =
      .ok (answer.toOption, after) :=
    (Action.run_bind_ok _ _ s _).mpr ⟨answer, after, fetched, rfl⟩
  have holds_iff : ∀ specs, Holds env s specs (.http baseUrl) ↔
      Delivers RuleSpec.decodeList answer.toOption specs := by
    intro specs
    constructor
    · rintro ⟨reply, other, again, delivered⟩
      cases asked.symm.trans again
      exact delivered
    · intro delivered
      exact ⟨_, after, asked, delivered⟩
  cases answer with
  | error e =>
      constructor
      · simp [ofAnswer, holds_iff, Delivers, Except.toOption]
      · simp [ofAnswer]
  | ok response =>
      by_cases fine : response.status = 200
      · cases read : response.decode? RuleSpec.decodeList with
        | none =>
            constructor
            · simp [ofAnswer, holds_iff, Delivers, Except.toOption, fine, read]
            · simp [ofAnswer, fine, read]
        | some specs =>
            constructor
            · simp [ofAnswer, holds_iff, Delivers, Except.toOption, fine, read]
            · simp [ofAnswer, fine, read]
      · constructor
        · simp [ofAnswer, holds_iff, Delivers, Except.toOption, fine]
        · simp [ofAnswer, fine]

/-- Every store answers, in every outside state. -/
theorem list_reflected (env : Environment σ) (store : RuleStore) (s : σ) :
    ∃ delivered after, (store.list env).run s = .ok (delivered, after) ∧
      store.Reflected env s delivered := by
  cases store with
  | memory rules =>
      refine ⟨.ok rules, s, rfl, ?_, ?_⟩
      · intro specs
        simp [Holds, eq_comm]
      · simp
  | file path =>
      exact ⟨_, (env.fileContent path s).2, rfl, ofFile_reflected env s path⟩
  | http baseUrl =>
      obtain ⟨⟨answer, after⟩, fetched⟩ :=
        Http.fetch_ends env (Http.Outgoing.ofText .get (rulesUrl baseUrl)) s
      refine ⟨_, after, ?_, ofAnswer_reflected env s after baseUrl answer fetched⟩
      exact (Action.run_bind_ok _ _ s _).mpr ⟨answer, after, fetched, rfl⟩

/-- A store with another list in memory; there is no such thing in a file or a service. -/
def withList (specs : List RuleSpec) : RuleStore → RuleStore
  | .memory _ => .memory specs
  | store => store

end RuleStore

/-! ## Refreshing -/

/-- What a refresh returns, and the gate that it leaves. -/
inductive Refreshed (gate : Gate σ) :
    Except RuleError (List RuleSpec) → Except RuleError Nat → Gate σ → Prop where
  | undelivered (e : RuleError) : Refreshed gate (.error e) (.error e) gate
  | uncompiled (specs : List RuleSpec) (e : RuleError) (bad : FirstBad specs e) :
      Refreshed gate (.ok specs) (.error e) gate
  | replaced (specs : List RuleSpec) (rules : RuleSet) (compiled : Compiled specs rules) :
      Refreshed gate (.ok specs) (.ok specs.length) { gate with rules := rules }

theorem refreshed_ofDelivery (gate : Gate σ) (delivered : Except RuleError (List RuleSpec)) :
    Refreshed gate delivered ((RuleSet.ofDelivery delivered).map List.length)
      { gate with rules := RuleSet.refreshed gate.rules delivered } := by
  cases delivered with
  | error e => exact .undelivered e
  | ok specs =>
      cases found : RuleSet.compile specs with
      | error e =>
          simp only [RuleSet.refreshed, RuleSet.ofDelivery, Except.bind, found, Except.map]
          exact .uncompiled specs e (compile_error specs e found)
      | ok rules =>
          simp only [RuleSet.refreshed, RuleSet.ofDelivery, Except.bind, found, Except.map]
          have compiled := (compile_ok_iff specs rules).mp found
          rw [← compiled.length_eq]
          exact .replaced specs rules compiled

theorem refreshRules_refreshed (env : Environment σ) (gate : Gate σ) (s : σ) :
    ∃ delivered outcome next after,
      (gate.store.list env).run s = .ok (delivered, after) ∧
      gate.store.Reflected env s delivered ∧
      (gate.refreshRules env).run s = .ok ((outcome, next), after) ∧
      Refreshed gate delivered outcome next := by
  obtain ⟨delivered, after, listed, reflected⟩ := RuleStore.list_reflected env gate.store s
  refine ⟨delivered, _, _, after, listed, reflected, ?_, refreshed_ofDelivery gate delivered⟩
  exact (Action.run_bind_ok _ _ s _).mpr ⟨delivered, after, listed, rfl⟩

/-- Each specification of a list is one of a rule. -/
def Compilable (specs : List RuleSpec) : Prop :=
  ∀ spec ∈ specs, ∃ rule, Rule.compile spec = .ok rule

theorem compilable_iff (specs : List RuleSpec) :
    Compilable specs ↔ ∃ rules, Compiled specs rules := by
  constructor
  · intro each
    cases found : RuleSet.compile specs with
    | ok rules => exact ⟨rules, (compile_ok_iff specs rules).mp found⟩
    | error e =>
        obtain ⟨fine, bad, rest, rfl, -, wrong⟩ := compile_error specs e found
        obtain ⟨rule, right⟩ := each bad (by simp)
        cases wrong.symm.trans right
  · rintro ⟨rules, compiled⟩
    induction compiled with
    | nil => simp [Compilable]
    | cons first others ih =>
        intro spec member
        rcases List.mem_cons.mp member with rfl | later
        · exact ⟨_, first⟩
        · exact ih spec later

theorem refreshed_ok_iff (gate next : Gate σ) (delivered : Except RuleError (List RuleSpec))
    (outcome : Except RuleError Nat) (refreshed : Refreshed gate delivered outcome next) :
    (∃ count, outcome = .ok count) ↔ ∃ specs, delivered = .ok specs ∧ Compilable specs := by
  cases refreshed with
  | undelivered e => simp
  | uncompiled specs e bad =>
      obtain ⟨fine, spec, rest, rfl, -, wrong⟩ := bad
      constructor
      · rintro ⟨count, same⟩
        cases same
      · rintro ⟨specs, same, each⟩
        cases same
        obtain ⟨rule, right⟩ := each spec (by simp)
        cases wrong.symm.trans right
  | replaced specs rules compiled =>
      exact ⟨fun _ => ⟨specs, rfl, (compilable_iff specs).mpr ⟨rules, compiled⟩⟩,
        fun _ => ⟨_, rfl⟩⟩

/-! ## Courses of events -/

/-- A gate at work, with what has come of it so far. -/
structure Course (σ : Type) where
  gate : Gate σ
  outside : σ
  /-- What the store delivered at each refresh, the latest first. -/
  deliveries : List (Except RuleError (List RuleSpec))
  /-- The sets that readers took. -/
  taken : List RuleSet
  /-- The evaluations that have found their rule. -/
  begun : List Plan

namespace Course

inductive Event (σ : Type) where
  /-- The list in memory is replaced. -/
  | stored (specs : List RuleSpec)
  /-- Files, services and all else outside change. -/
  | changed (outside : σ → σ)
  | refreshed
  /-- A refresh by the loop in the background. -/
  | looped (failures : Nat)
  | taken
  | begun (request : Request)

def start (gate : Gate σ) (s : σ) : Course σ := ⟨gate, s, [], [], []⟩

/-- The course after something that asked the store and left another gate. -/
def asked (env : Environment σ) (course : Course σ) (action : Action σ (α × Gate σ)) :
    Except Crash (Course σ) := do
  let (delivered, _) ← (course.gate.store.list env).run course.outside
  let ((_, gate), after) ← action.run course.outside
  pure { course with
    gate := gate, outside := after, deliveries := delivered :: course.deliveries }

def step (env : Environment σ) (course : Course σ) : Event σ → Except Crash (Course σ)
  | .stored specs =>
      pure { course with gate := { course.gate with store := course.gate.store.withList specs } }
  | .changed outside => pure { course with outside := outside course.outside }
  | .refreshed => course.asked env (course.gate.refreshRules env)
  | .looped failures => course.asked env (course.gate.ruleRound env failures)
  | .taken => pure { course with taken := course.taken ++ [course.gate.rules] }
  | .begun request =>
      pure { course with
        begun := course.begun ++ [Evaluation.plan course.gate.rules request] }

def run (env : Environment σ) (events : List (Event σ)) (course : Course σ) :
    Except Crash (Course σ) :=
  events.foldlM (step env) course

/-- The rules are those of the last delivery that compiles, or there are none. -/
inductive Follow : List (Except RuleError (List RuleSpec)) → RuleSet → Prop where
  | never (deliveries : List (Except RuleError (List RuleSpec)))
      (useless : ∀ specs, .ok specs ∈ deliveries → ¬ Compilable specs) : Follow deliveries []
  | last (later earlier : List (Except RuleError (List RuleSpec))) (specs : List RuleSpec)
      (rules : RuleSet) (useless : ∀ specs, .ok specs ∈ later → ¬ Compilable specs)
      (compiled : Compiled specs rules) : Follow (later ++ .ok specs :: earlier) rules

-- A delivery that is of no use only adds to those after the last one that was.
theorem follow_useless (delivered : Except RuleError (List RuleSpec))
    (deliveries : List (Except RuleError (List RuleSpec))) (rules : RuleSet)
    (useless : ∀ specs, delivered = .ok specs → ¬ Compilable specs)
    (before : Follow deliveries rules) : Follow (delivered :: deliveries) rules := by
  have more : ∀ later : List (Except RuleError (List RuleSpec)),
      (∀ specs, .ok specs ∈ later → ¬ Compilable specs) →
      ∀ specs, .ok specs ∈ delivered :: later → ¬ Compilable specs := by
    intro later fruitless specs member
    rcases List.mem_cons.mp member with same | old
    · exact useless specs same.symm
    · exact fruitless specs old
  cases before with
  | never _ fruitless => exact .never _ (more _ fruitless)
  | last later earlier specs _ fruitless compiled =>
      exact .last (delivered :: later) earlier specs rules (more later fruitless) compiled

theorem follow_refreshed (delivered : Except RuleError (List RuleSpec))
    (deliveries : List (Except RuleError (List RuleSpec))) (rules : RuleSet)
    (before : Follow deliveries rules) :
    Follow (delivered :: deliveries) (RuleSet.refreshed rules delivered) := by
  cases delivered with
  | error e => exact follow_useless _ deliveries rules (fun specs same => by cases same) before
  | ok specs =>
      unfold RuleSet.refreshed RuleSet.ofDelivery
      cases found : RuleSet.compile specs with
      | error e =>
          simp only [Except.bind, found]
          refine follow_useless _ deliveries rules ?_ before
          intro other same each
          cases same
          obtain ⟨compiled, right⟩ := (compilable_iff specs).mp each
          cases found.symm.trans ((compile_ok_iff specs compiled).mpr right)
      | ok compiled =>
          simp only [Except.bind, found]
          exact .last [] deliveries specs compiled (by simp) ((compile_ok_iff _ _).mp found)

theorem sound_of_follow (deliveries : List (Except RuleError (List RuleSpec))) (rules : RuleSet)
    (follow : Follow deliveries rules) : ∀ rule ∈ rules, rule.Sound := by
  cases follow with
  | never _ useless => simp
  | last later earlier specs _ useless compiled => exact sound_of_compiled specs rules compiled

/-- What holds at every point of a course, and stays over the next event. -/
structure Leads (course next : Course σ) : Prop where
  follow : Follow course.deliveries course.gate.rules → Follow next.deliveries next.gate.rules
  taken : course.taken <+: next.taken
  begun : course.begun <+: next.begun

theorem leads_asked (env : Environment σ) (course : Course σ) (action : Action σ (α × Gate σ))
    (delivered : Except RuleError (List RuleSpec)) (value : α) (gate : Gate σ) (between after : σ)
    (listed : (course.gate.store.list env).run course.outside = .ok (delivered, between))
    (ran : action.run course.outside = .ok ((value, gate), after))
    (refreshed : gate.rules = RuleSet.refreshed course.gate.rules delivered) :
    ∃ next, course.asked env action = .ok next ∧ Leads course next := by
  let next := { course with
    gate := gate, outside := after, deliveries := delivered :: course.deliveries }
  refine ⟨next, ?_, ⟨?_, List.prefix_rfl, List.prefix_rfl⟩⟩
  · unfold asked
    rw [listed]
    change (action.run course.outside).bind _ = _
    rw [ran]
    rfl
  · intro before
    change Follow _ gate.rules
    rw [refreshed]
    exact follow_refreshed delivered _ _ before

/-- Every event ends, and leads on. -/
theorem step_leads (env : Environment σ) (course : Course σ) (event : Event σ) :
    ∃ next, course.step env event = .ok next ∧ Leads course next := by
  cases event with
  | stored specs => exact ⟨_, rfl, id, List.prefix_rfl, List.prefix_rfl⟩
  | changed outside => exact ⟨_, rfl, id, List.prefix_rfl, List.prefix_rfl⟩
  | refreshed =>
      obtain ⟨delivered, after, listed, -⟩ :=
        RuleStore.list_reflected env course.gate.store course.outside
      let gate :=
        { course.gate with rules := RuleSet.refreshed course.gate.rules delivered }
      let outcome := (RuleSet.ofDelivery delivered).map List.length
      refine leads_asked env course _ delivered outcome gate after after listed ?_ rfl
      exact (Action.run_bind_ok _ _ course.outside _).mpr ⟨delivered, after, listed, rfl⟩
  | looped failures =>
      obtain ⟨delivered, between, listed, -⟩ :=
        RuleStore.list_reflected env course.gate.store course.outside
      let loop := (RuleLoop.mk failures course.gate.rules course.gate.readiness).after delivered
      have same : loop.active = RuleSet.refreshed course.gate.rules delivered := by
        simp only [loop, RuleLoop.after, RuleSet.refreshed]
        cases RuleSet.ofDelivery delivered with
        | error e => rfl
        | ok rules => rfl
      have told : ∃ after, (Refresh.tell env loop.failures).run between = .ok ((), after) := by
        unfold Refresh.tell
        split
        · exact ⟨between, rfl⟩
        · exact ⟨_, rfl⟩
      obtain ⟨after, told⟩ := told
      refine leads_asked env course _ delivered loop.failures
        { course.gate with rules := loop.active, readiness := loop.readiness } between after listed
        ?_ same
      refine (Action.run_bind_ok _ _ course.outside _).mpr ⟨delivered, between, listed, ?_⟩
      exact (Action.run_bind_ok _ _ between _).mpr ⟨(), after, told, rfl⟩
  | taken => exact ⟨_, rfl, id, List.prefix_append _ _, List.prefix_rfl⟩
  | begun request => exact ⟨_, rfl, id, List.prefix_rfl, List.prefix_append _ _⟩

-- By induction on the events, with one step lemma for all of them.
theorem run_leads (env : Environment σ) (events : List (Event σ)) (course : Course σ) :
    ∃ final, run env events course = .ok final ∧ Leads course final := by
  induction events generalizing course with
  | nil => exact ⟨course, rfl, id, List.prefix_rfl, List.prefix_rfl⟩
  | cons event rest ih =>
      obtain ⟨next, stepped, first⟩ := step_leads env course event
      obtain ⟨final, ran, others⟩ := ih next
      refine ⟨final, ?_, ?_⟩
      · unfold run
        rw [List.foldlM_cons, stepped]
        exact ran
      · exact ⟨fun before => others.follow (first.follow before), first.taken.trans others.taken,
          first.begun.trans others.begun⟩

theorem rules_of_assembled (settings : Settings) (store : RuleStore) (policy : PolicyClient σ)
    (keys : KeyManager) (gate : Gate σ)
    (assembled : Gate.assemble settings store policy keys = .ok gate) : gate.rules = [] := by
  unfold Gate.assemble at assembled
  cases read : Url.parse settings.backendUrl.toList with
  | error e =>
      rw [read] at assembled
      cases assembled
  | ok backend =>
      rw [read] at assembled
      cases assembled
      rfl

-- What stands at the end of one list is found at that place in every longer one.
theorem getElem?_of_prefix (before later : List α) (value : α) (longer : before ++ [value] <+: later) :
    later[before.length]? = some value := by
  obtain ⟨rest, rfl⟩ := longer
  simp

/-- The rules follow the store. At every point of every course the active rules are those of the last
delivery that compiled, and sound; the next refresh replaces them just when the store has a list that
compiles, and says otherwise what was wrong first; who takes the set now, or has an evaluation find
its rule in it, goes on with that set whatever comes after. -/
theorem active_rules_follow (env : Environment σ) (settings : Settings) (store : RuleStore)
    (policy : PolicyClient σ) (keys : KeyManager) (gate : Gate σ) (s : σ) (request : Request)
    (before after : List (Event σ))
    (assembled : Gate.assemble settings store policy keys = .ok gate) :
    ∃ course later,
      run env before (start gate s) = .ok course ∧
      run env (.taken :: .begun request :: after) course = .ok later ∧
      Follow course.deliveries course.gate.rules ∧
      (∀ rule ∈ course.gate.rules, rule.Sound) ∧
      (∃ delivered outcome next outside,
        (course.gate.store.list env).run course.outside = .ok (delivered, outside) ∧
        (course.gate.refreshRules env).run course.outside = .ok ((outcome, next), outside) ∧
        course.gate.store.Reflected env course.outside delivered ∧
        Refreshed course.gate delivered outcome next ∧
        ((∃ count, outcome = .ok count) ↔
          ∃ specs, course.gate.store.Holds env course.outside specs ∧ Compilable specs)) ∧
      later.taken[course.taken.length]? = some course.gate.rules ∧
      ∃ plan, later.begun[course.begun.length]? = some plan ∧
        ∀ client : PolicyClient σ,
          Evaluation.carryOut client plan = evaluate client course.gate.rules request := by
  have empty := rules_of_assembled settings store policy keys gate assembled
  obtain ⟨course, ran, leads⟩ := run_leads env before (start gate s)
  have follow : Follow course.deliveries course.gate.rules := by
    apply leads.follow
    change Follow [] gate.rules
    rw [empty]
    exact .never [] (by simp)
  -- Both readers come first, so that all that happens later is one run from where they are done.
  let read : Course σ := { course with
    taken := course.taken ++ [course.gate.rules],
    begun := course.begun ++ [Evaluation.plan course.gate.rules request] }
  obtain ⟨later, ranOn, onwards⟩ := run_leads env after read
  obtain ⟨delivered, outcome, next, outside, listed, reflected, refresh, refreshed⟩ :=
    refreshRules_refreshed env course.gate course.outside
  refine ⟨course, later, ran, ranOn, follow, sound_of_follow _ _ follow,
    ⟨delivered, outcome, next, outside, listed, refresh, reflected, refreshed, ?_⟩,
    getElem?_of_prefix _ _ _ onwards.taken, _, getElem?_of_prefix _ _ _ onwards.begun,
    fun client => rfl⟩
  rw [refreshed_ok_iff course.gate next delivered outcome refreshed]
  simp only [reflected.ok_iff]

-- A list with a bad rule is stored after a good one, and an empty one while the set is in use.
theorem active_rules_follow_open :
    ∃ course later : Course Unit,
      run Proxy.silent
        [.refreshed, .stored [Proxy.openSpec, { Proxy.openSpec with id := " " }], .refreshed]
        (start { Proxy.openGate with store := .memory [Proxy.openSpec], rules := [] } ()) =
          .ok course ∧
      run Proxy.silent
        [.taken, .begun (.ofUrl .get Proxy.openGate.backend), .stored [], .refreshed] course =
          .ok later ∧
      Follow course.deliveries course.gate.rules ∧ course.gate.rules = [Proxy.openRule] ∧
      (∀ rule ∈ course.gate.rules, rule.Sound) ∧
      later.taken[course.taken.length]? = some [Proxy.openRule] ∧ later.gate.rules = [] := by
  obtain ⟨course, later, ran, ranOn, follow, sound, -, kept, -⟩ := active_rules_follow Proxy.silent
    Proxy.openGate.settings (.memory [Proxy.openSpec]) Proxy.openGate.policy Proxy.openGate.keys
    { Proxy.openGate with store := .memory [Proxy.openSpec], rules := [] } ()
    (.ofUrl .get Proxy.openGate.backend)
    [.refreshed, .stored [Proxy.openSpec, { Proxy.openSpec with id := " " }], .refreshed]
    [.stored [], .refreshed] rfl
  cases ran
  cases ranOn
  exact ⟨_, _, rfl, rfl, follow, rfl, sound, kept, rfl⟩

end Course

end AccessGate
