import AccessGate.Json.Printer
import AccessGate.Proofs.Reachable
import AccessGate.Proofs.Verdict

/-!
A gate that lets every request pass that can be read.
-/

namespace AccessGate.Proxy

/-- A rule that lets every request pass, as it is stored. -/
def openSpec : RuleSpec := ⟨"all", "", ["*"], "", .bypass, "", "", []⟩

def openRule : Rule := ⟨"all", "", .any, "", .ofTree .empty 1, .bypass, "", "", []⟩

/-- An outside that has that rule in its files, where no service answers and no time passes. -/
def silent : Environment Unit where
  exchange _ _ := (none, ())
  now _ := (.ofSeconds 0, ())
  random size _ := (List.replicate size 0, ())
  fileContent _ _ := (.ok (Utf8.encode (Json.Value.array [openSpec.toJson]).chars), ())
  report _ _ := ()
  listen _ _ := (.ok (), ())

/-- A gate in front of a loopback address, with that rule only. -/
def openGate : Gate Unit where
  settings := { Settings.default with backendUrl := "http://[::1]/api/" }
  backend := ⟨"http".toList, [], [], some (.address (.v6 [0, 0, 0, 0, 0, 0, 0, 1])), none,
    .segments ["api".toList, []], none, none⟩
  store := .file "rules.json"
  policy := .overHttp silent ⟨none, none, none⟩
  rules := [openRule]
  keys := .ofSource (.made 4096 KeySource.defaultId)
  readiness := .gate

theorem openGate_reachable : Gate.Reachable silent openGate := by
  let fresh : Gate Unit := { openGate with rules := [] }
  have assembled : (Gate.ofSettings silent openGate.settings).run () = .ok (.ok fresh, ()) := rfl
  have delivered : openGate.store.list silent () = .ok (.ok [openSpec], ()) := by
    have read : (RuleStore.ofFile "rules.json" (silent.fileContent "rules.json" ()).1).toOption =
        some [openSpec] := by decide +kernel
    change Except.ok (RuleStore.ofFile "rules.json" _, ()) = _
    cases found : RuleStore.ofFile "rules.json" (silent.fileContent "rules.json" ()).1 with
    | error e =>
        rw [found] at read
        cases read
    | ok specs =>
        rw [found] at read
        cases read
        rfl
  have refreshed : (fresh.refreshRules silent).run () = .ok ((.ok 1, openGate), ()) :=
    (Action.run_bind_ok _ _ () _).mpr ⟨.ok [openSpec], (), delivered, rfl⟩
  exact .stepped (.assembled assembled) (.rulesRefreshed refreshed)

/-- A request to the open gate, addressed to the loopback. -/
def openRequest (target : Http.Target) (headers : Http.Headers) : Http.Incoming :=
  ⟨.get, target, ("host", Utf8.encode "[::1]".toList) :: headers, none, []⟩

theorem openRule_matches (method : Http.Method) (url : List Char) :
    openRule.isMatching method url = true := by
  change (Pattern.scan openRule.pattern 0 none [] none url).isSome = true
  rw [Pattern.scan.eq_def]
  cases url with
  | nil => rfl
  | cons c rest => rfl

def openAdmission (request : Request) (target : Http.Target) : Admission Unit :=
  ⟨⟨request, openRule, ⟨.ok .bypassed, none, none⟩, .bypassed, ()⟩, none, target⟩

theorem open_admits (incoming : Http.Incoming) (request : Request) (target : Http.Target)
    (read : Request.ofHttp incoming.method incoming.target incoming.headers incoming.peer =
      .ok request)
    (targeted : backendTarget openGate.backend incoming.target = .ok target) :
    Admits (openGate.arbiter silent) openGate.backend incoming openGate.keys ()
      (openAdmission request target) := by
  have single : openGate.rules.matching request.method request.matchUrl = [openRule] := by
    simp [RuleSet.matching, openGate, openRule_matches]
  have planned := plan_single _ request openRule single
  refine ⟨⟨read, single, ?_, rfl⟩, ⟨openGate.keys, (), rfl⟩, targeted⟩
  change (Evaluation.carryOut _ (Evaluation.plan openGate.rules request)).run () = _
  rw [planned]
  rfl

theorem open_allows (incoming : Http.Incoming) (request : Request) (target : Http.Target)
    (read : Request.ofHttp incoming.method incoming.target incoming.headers incoming.peer =
      .ok request)
    (targeted : backendTarget openGate.backend incoming.target = .ok target) :
    ((direct (openGate.arbiter silent) openGate.backend incoming).run openGate.keys).run () =
      .ok (((target, .allowed none), openGate.keys), ()) := by
  have admits := open_admits incoming request target read targeted
  have decided := decide_issued (openGate.arbiter silent) (openAdmission request target).toApproval
    openGate.keys openGate.keys () () (.ok none) admits.approves.evaluated rfl rfl
  have shown : ((credential (openGate.arbiter silent) (Request.ofHttp incoming.method
      incoming.target incoming.headers incoming.peer)).run openGate.keys).run () =
        .ok ((.ok none, openGate.keys), ()) := by
    rw [read]
    exact (KeyAction.run_bind_ok _ _ openGate.keys () _).mpr ⟨_, _, _, decided, rfl⟩
  have ran := direct_of_credential _ openGate.backend incoming _ _ () () _ shown
  simpa only [targeted] using ran

end AccessGate.Proxy
