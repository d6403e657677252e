import AccessGate.Settings.Basic
import AccessGate.Web

/-!
The gate as a whole: what it was set up with, the rules and the key that are in force, and its
readiness. Refreshing replaces rules and key; requests only ever load a key that is missing.
-/

namespace AccessGate

structure Gate (σ : Type) where
  settings : Settings
  backend : Url
  store : RuleStore
  policy : PolicyClient σ
  rules : RuleSet
  keys : KeyManager
  readiness : Readiness

namespace Gate

/-! ## Setting up -/

def keysOf (env : Environment σ) (s : KeySettings) : Action σ (Except SetupError KeyManager) :=
  match s.choice with
  | .rs256 =>
      if s.bits < 2048 then
        pure (.error (.badSettings "keys.key_strength must be at least 2048 bits"))
      else pure (.ok (.ofSource (.made s.bits (s.id.getD KeySource.defaultId))))
  | .remote =>
      match s.remoteUrl with
      | some url => pure (.ok (.ofSource (.service url s.set)))
      | none => pure (.error (.badSettings "keys.remote_url is required for remote keys"))
  | .hs256 =>
      match s.secret with
      | some secret => do
          return (← KeyManager.ofSecret env (Utf8.encode secret.toList)).mapError .badSettings
      | none => pure (.error (.badSettings "keys.shared_secret is required for hs256"))

def storeOf (s : RuleSettings) : Except SetupError RuleStore :=
  match s.store, s.path, s.url with
  | .memory, _, _ => .ok (.memory [])
  | .file, some path, _ => .ok (.file path)
  | .file, none, _ => .error (.badSettings "rules.path is required for the file store")
  | .http, _, some url => .ok (.http url)
  | .http, _, none => .error (.badSettings "rules.url is required for the http store")

/-- Puts the parts together. No rules are active and no key is loaded yet. -/
def assemble (settings : Settings) (store : RuleStore) (policy : PolicyClient σ)
    (keys : KeyManager) : Except SetupError (Gate σ) :=
  match Url.parse settings.backendUrl.toList with
  | .ok backend => .ok ⟨settings, backend, store, policy, [], keys, .gate⟩
  | .error e =>
      .error (.badSettings ("backend.url \x60" ++ settings.backendUrl ++ "\x60: " ++ e.message))

def ofSettings (env : Environment σ) (settings : Settings) :
    Action σ (Except SetupError (Gate σ)) :=
  match storeOf settings.rules with
  | .error e => pure (.error e)
  | .ok store => do
      let policy := PolicyClient.overHttp env settings.policy.endpoints
      return (← keysOf env settings.keys).bind fun keys => assemble settings store policy keys

/-! ## Requests -/

def issuer (gate : Gate σ) : Issuer :=
  ⟨gate.settings.credentials.issuer, gate.settings.credentials.lifespanSeconds⟩

def arbiter (env : Environment σ) (gate : Gate σ) : Arbiter σ :=
  ⟨env, gate.policy, gate.rules, gate.issuer⟩

/-- Does something with the key at hand, and keeps the key that it leaves. -/
def withKeys (gate : Gate σ) (action : KeyAction σ α) : Action σ (α × Gate σ) := do
  let (result, keys) ← action.run gate.keys
  pure (result, { gate with keys := keys })

def serveApi (env : Environment σ) (gate : Gate σ) (incoming : Http.Incoming) :
    Action σ (Http.Response × Gate σ) :=
  gate.withKeys (Web.served (gate.arbiter env) gate.readiness incoming)

def corsInUse (gate : Gate σ) : Action σ (Except SetupError (Option CorsPolicy)) := fun s =>
  match Web.corsOf gate.settings.cors with
  | .error e => .ok (.error e, s)
  | .ok none => .ok (.ok none, s)
  | .ok (some policy) => policy.inUse.map fun policy => (.ok (some policy), s)

def serveProxy (env : Environment σ) (gate : Gate σ) (incoming : Http.Incoming) :
    Action σ (Except SetupError Http.Response × Gate σ) := do
  match ← gate.corsInUse with
  | .error e => pure (.error e, gate)
  | .ok cors =>
      let answer := Web.proxied (gate.arbiter env) gate.backend cors incoming
      let (response, gate) ← gate.withKeys answer
      pure (.ok response, gate)

/-! ## Refreshing -/

/-- Asks the store for its list; how many rules are active then, or why they stay as they were. -/
def refreshRules (env : Environment σ) (gate : Gate σ) :
    Action σ (Except RuleError Nat × Gate σ) := do
  let delivered ← gate.store.list env
  let count := (RuleSet.ofDelivery delivered).map List.length
  pure (count, { gate with rules := RuleSet.refreshed gate.rules delivered })

def refreshKeys (env : Environment σ) (gate : Gate σ) :
    Action σ (Except KeyError Unit × Gate σ) :=
  gate.withKeys (KeyAction.refresh env)

def ruleRound (env : Environment σ) (gate : Gate σ) (failures : Nat) :
    Action σ (Nat × Gate σ) := do
  let loop := (RuleLoop.mk failures gate.rules gate.readiness).after (← gate.store.list env)
  Refresh.tell env loop.failures
  pure (loop.failures, { gate with rules := loop.active, readiness := loop.readiness })

def keyRound (env : Environment σ) (gate : Gate σ) (failures : Nat) :
    Action σ (Nat × Gate σ) := do
  let (result, gate) ← gate.refreshKeys env
  let failures := Refresh.failuresAfter failures result.toBool
  Refresh.tell env failures
  pure (failures, gate)

/-- How many tasks run in the background: the routing of events and the two loops. -/
def backgroundTasks : Nat := 3

/-- Starts the background tasks and lets each of them get to its first pause. -/
def start (env : Environment σ) (gate : Gate σ) : Action σ (Gate σ) := do
  let watched := { gate with readiness := gate.readiness.watch }
  let (_, gate) ← watched.ruleRound env 0
  let (_, gate) ← gate.keyRound env 0
  pure { gate with readiness := gate.readiness.settled }

def stop (gate : Gate σ) : Gate σ := { gate with readiness := gate.readiness.cancel }

/-! ## Listening -/

def bindAddress (env : Environment σ) (text : String) : Action σ (Except String Unit) :=
  match Net.SocketAddress.parse? text.toList with
  | none => pure (.error ("bad listen addr \x60" ++ text ++ "\x60: invalid socket address syntax"))
  | some address => env.bind address

def listen (env : Environment σ) (gate : Gate σ) : Action σ (Except String Unit) := do
  match ← bindAddress env gate.settings.proxyAddress with
  | .error reason => pure (.error reason)
  | .ok () =>
      match ← bindAddress env gate.settings.apiAddress with
      | .error reason => pure (.error reason)
      | .ok () => return (← gate.corsInUse).mapError (·.message) |>.map fun _ => ()

end Gate

end AccessGate
