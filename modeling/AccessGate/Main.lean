import AccessGate.CommandLine
import AccessGate.Gate
import AccessGate.Settings.Load

/-!
The program: it loads the settings, sets the gate up with them, loads the rules of a rule file once
and tells where the gate listens.
-/

namespace AccessGate

/-- What setting up needs from outside: random octets, and the rule file when there is one. -/
structure Supply where
  random : Http.Octets
  rules : Except String Http.Octets

namespace Supply

def env : Environment Supply where
  exchange _ s := (none, s)
  now s := (default, s)
  random size s := (s.random.take size, { s with random := s.random.drop size })
  fileContent _ s := (s.rules, s)
  report _ s := s
  listen _ s := (.ok (), s)

end Supply

def begin (settings : Settings) : Action Supply (Except SetupError (Except RuleError Nat)) := do
  match ← Gate.ofSettings Supply.env settings with
  | .error e => pure (.error e)
  | .ok gate => return .ok (← gate.refreshRules Supply.env).1

def errorText (message : String) (diagnostic : Diagnostic) : String :=
  String.intercalate "\n" (["Error: " ++ diagnostic.code, "", "  × " ++ message] ++
    (diagnostic.help.map fun help => "  help: " ++ help).toList)

def octetsAt (path : String) : IO (Except String Http.Octets) := do
  try
    return .ok (← IO.FS.readBinFile path).toList
  catch e => return .error (toString e)

def variablesIn (names : List String) : IO (List (String × String)) :=
  names.filterMapM fun name => do
    return (← IO.getEnv name).map fun value => (name, value)

def sourcesOf (file : String) : IO Settings.Sources := do
  let content ← octetsAt file
  let environment ← variablesIn (Settings.variableNames Settings.environmentStart)
  let directory := (← IO.getEnv "PWD").getD "."
  return ⟨file, content.toOption, environment, directory⟩

def tell (settings : Settings) (rules : Except RuleError Nat) : IO UInt32 := do
  match settings.rules.store, rules with
  | .http, _ => pure ()
  | _, .ok count => IO.println ("rules: " ++ toString count)
  | _, .error e => IO.eprintln (errorText e.message e.diagnostic)
  IO.println ("proxy: " ++ settings.proxyAddress)
  IO.println ("api: " ++ settings.apiAddress)
  return 0

def fail (message : String) (diagnostic : Diagnostic) : IO UInt32 := do
  IO.eprintln (errorText message diagnostic)
  return 1

def runWith (file : String) : IO UInt32 := do
  match Settings.load (← sourcesOf file) with
  | .error e => fail (SetupError.config e).message (SetupError.config e).diagnostic
  | .ok settings =>
      let rules ← octetsAt (settings.rules.path.getD "")
      let random := (← IO.getRandomBytes 64).toList
      match (begin settings).run ⟨random, rules⟩ with
      | .error _ => return 101
      | .ok (.error e, _) => fail e.message e.diagnostic
      | .ok (.ok rules, _) => tell settings rules

end AccessGate

open AccessGate in
def main (arguments : List String) : IO UInt32 := do
  match Invocation.ofArguments arguments with
  | .help => IO.println Invocation.helpText; return 0
  | .version => IO.println Invocation.versionText; return 0
  | .refused reason => IO.eprintln (Invocation.refusalText reason); return 2
  | .run file => runWith file
