import AccessGate.Gate
import AccessGate.Proofs.Actions

/-!
The gates that there can be: set up from settings, and then changed by refreshes, by requests and by
events on their way. None of these replaces what the gate was set up with.
-/

namespace AccessGate.Gate

variable {σ : Type} {env : Environment σ}

/-- One thing that happens to a gate, in any outside state. -/
inductive Step (env : Environment σ) (gate : Gate σ) : Gate σ → Prop where
  | rulesRefreshed {next : Gate σ} {s after : σ} {count : Except RuleError Nat}
      (ran : (gate.refreshRules env).run s = .ok ((count, next), after)) : Step env gate next
  | keysRefreshed {next : Gate σ} {s after : σ} {result : Except KeyError Unit}
      (ran : (gate.refreshKeys env).run s = .ok ((result, next), after)) : Step env gate next
  | ruleRound {next : Gate σ} {s after : σ} {failures count : Nat}
      (ran : (gate.ruleRound env failures).run s = .ok ((count, next), after)) : Step env gate next
  | keyRound {next : Gate σ} {s after : σ} {failures count : Nat}
      (ran : (gate.keyRound env failures).run s = .ok ((count, next), after)) : Step env gate next
  | apiServed {next : Gate σ} {s after : σ} {incoming : Http.Incoming} {response : Http.Response}
      (ran : (gate.serveApi env incoming).run s = .ok ((response, next), after)) :
      Step env gate next
  | proxyServed {next : Gate σ} {s after : σ} {incoming : Http.Incoming}
      {response : Except SetupError Http.Response}
      (ran : (gate.serveProxy env incoming).run s = .ok ((response, next), after)) :
      Step env gate next
  | watched : Step env gate { gate with readiness := gate.readiness.watch }
  | routed {bus : Bus} (taken : gate.readiness.bus.route? = some bus) :
      Step env gate { gate with readiness := { gate.readiness with bus := bus } }
  | admitted {index : Nat} {bus : Bus} (found : gate.readiness.bus.admit? index = some bus) :
      Step env gate { gate with readiness := { gate.readiness with bus := bus } }
  | stopped : Step env gate gate.stop

inductive Reachable (env : Environment σ) : Gate σ → Prop where
  | assembled {settings : Settings} {gate : Gate σ} {s after : σ}
      (ready : (ofSettings env settings).run s = .ok (.ok gate, after)) : Reachable env gate
  | stepped {gate next : Gate σ} (before : Reachable env gate) (step : Step env gate next) :
      Reachable env next

/-! ## What stays -/

/-- The parts that a gate was set up with are those of another. -/
structure SameParts (gate next : Gate σ) : Prop where
  settings : next.settings = gate.settings
  backend : next.backend = gate.backend
  store : next.store = gate.store
  policy : next.policy = gate.policy

theorem sameParts_withKeys (gate next : Gate σ) (action : KeyAction σ α) (value : α) (s after : σ)
    (ran : (gate.withKeys action).run s = .ok ((value, next), after)) : SameParts gate next := by
  obtain ⟨⟨result, keys⟩, between, -, finished⟩ := (Action.run_bind_ok _ _ s _).mp ran
  cases finished
  exact ⟨rfl, rfl, rfl, rfl⟩

theorem sameParts_refreshRules (gate next : Gate σ) (count : Except RuleError Nat) (s after : σ)
    (ran : (gate.refreshRules env).run s = .ok ((count, next), after)) : SameParts gate next := by
  obtain ⟨delivered, between, -, finished⟩ := (Action.run_bind_ok _ _ s _).mp ran
  cases finished
  exact ⟨rfl, rfl, rfl, rfl⟩

theorem sameParts_ruleRound (gate next : Gate σ) (failures count : Nat) (s after : σ)
    (ran : (gate.ruleRound env failures).run s = .ok ((count, next), after)) :
    SameParts gate next := by
  obtain ⟨delivered, between, -, told⟩ := (Action.run_bind_ok _ _ s _).mp ran
  obtain ⟨⟨⟩, later, -, finished⟩ := (Action.run_bind_ok _ _ between _).mp told
  cases finished
  exact ⟨rfl, rfl, rfl, rfl⟩

theorem sameParts_keyRound (gate next : Gate σ) (failures count : Nat) (s after : σ)
    (ran : (gate.keyRound env failures).run s = .ok ((count, next), after)) :
    SameParts gate next := by
  obtain ⟨⟨result, refreshed⟩, between, refresh, told⟩ := (Action.run_bind_ok _ _ s _).mp ran
  obtain ⟨⟨⟩, later, -, finished⟩ := (Action.run_bind_ok _ _ between _).mp told
  cases finished
  exact sameParts_withKeys gate next _ result s between refresh

theorem sameParts_serveProxy (gate next : Gate σ) (incoming : Http.Incoming)
    (response : Except SetupError Http.Response) (s after : σ)
    (ran : (gate.serveProxy env incoming).run s = .ok ((response, next), after)) :
    SameParts gate next := by
  obtain ⟨cors, between, -, rest⟩ := (Action.run_bind_ok _ _ s _).mp ran
  cases cors with
  | error e =>
      cases rest
      exact ⟨rfl, rfl, rfl, rfl⟩
  | ok policy =>
      obtain ⟨⟨answer, served⟩, later, answered, finished⟩ :=
        (Action.run_bind_ok _ _ between _).mp rest
      cases finished
      exact sameParts_withKeys gate next _ answer between after answered

theorem sameParts_of_step (gate next : Gate σ) (step : Step env gate next) :
    SameParts gate next := by
  cases step with
  | rulesRefreshed ran => exact sameParts_refreshRules gate next _ _ _ ran
  | keysRefreshed ran => exact sameParts_withKeys gate next _ _ _ _ ran
  | ruleRound ran => exact sameParts_ruleRound gate next _ _ _ _ ran
  | keyRound ran => exact sameParts_keyRound gate next _ _ _ _ ran
  | apiServed ran => exact sameParts_withKeys gate next _ _ _ _ ran
  | proxyServed ran => exact sameParts_serveProxy gate next _ _ _ _ ran
  | watched => exact ⟨rfl, rfl, rfl, rfl⟩
  | routed taken => exact ⟨rfl, rfl, rfl, rfl⟩
  | admitted found => exact ⟨rfl, rfl, rfl, rfl⟩
  | stopped => exact ⟨rfl, rfl, rfl, rfl⟩

/-- The policy service and the backend are those of the settings. -/
structure Wired (env : Environment σ) (gate : Gate σ) : Prop where
  policy : gate.policy = .overHttp env gate.settings.policy.endpoints
  backend : Url.parse gate.settings.backendUrl.toList = .ok gate.backend

theorem wired_of_assembled (settings : Settings) (gate : Gate σ) (s after : σ)
    (ready : (ofSettings env settings).run s = .ok (.ok gate, after)) : Wired env gate := by
  unfold ofSettings at ready
  cases stored : storeOf settings.rules with
  | error e =>
      rw [stored] at ready
      cases ready
  | ok store =>
      rw [stored] at ready
      obtain ⟨made, between, -, finished⟩ := (Action.run_bind_ok _ _ s _).mp ready
      cases made with
      | error e => cases finished
      | ok keys =>
          simp only [Except.bind, assemble] at finished
          split at finished
          · rename_i backend known
            cases finished
            exact ⟨rfl, known⟩
          · cases finished

theorem wired_of_reachable (gate : Gate σ) (reachable : Reachable env gate) : Wired env gate := by
  induction reachable with
  | assembled ready => exact wired_of_assembled _ _ _ _ ready
  | stepped before step ih =>
      have same := sameParts_of_step _ _ step
      constructor
      · rw [same.policy, same.settings]
        exact ih.policy
      · rw [same.settings, same.backend]
        exact ih.backend

end AccessGate.Gate
