import AccessGate.Diagnostic

/-!
Readiness probes and the event types they listen to. Each event type belongs to at most one probe,
and a probe that cannot have all of its types is not taken in at all.
-/

namespace AccessGate

inductive ReadinessError where
  | typeTaken (type : String)
  | rulesNotLoaded
  deriving DecidableEq, Repr

namespace ReadinessError

def message : ReadinessError → String
  | typeTaken type => "Event type \x60" ++ type ++ "\x60 already has a registered listener"
  | rulesNotLoaded => "Rules have not been loaded yet"

def diagnostic : ReadinessError → Diagnostic
  | typeTaken _ =>
      .withHelp "health::event_type_already_registered"
        "Each event type is owned by exactly one readiness probe"
  | rulesNotLoaded => .plain "health::rules_not_yet_loaded"

end ReadinessError

/-- A named check that looks at the types of the events it has received, oldest first. -/
structure Probe where
  id : String
  types : List String
  objection : List String → Option ReadinessError

namespace Probe

def rulesLoaded : String := "rules-loaded"

def rules : Probe where
  id := "rule-first-load"
  types := [rulesLoaded]
  objection received := if received.contains rulesLoaded then none else some .rulesNotLoaded

def counting (id : String) (types : List String) (needed : Nat) : Probe where
  id := id
  types := types
  objection received := if received.length < needed then some .rulesNotLoaded else none

end Probe

abbrev Owners := List (String × Nat)

namespace Owners

def find? (type : String) (owners : Owners) : Option Nat :=
  (List.find? (·.1 == type) owners).map (·.2)

end Owners

structure Registry where
  probes : List Probe
  owners : Owners

namespace Registry

def empty : Registry := ⟨[], []⟩

/-- The first type that is claimed already, or that stands behind itself. -/
def taken? (owners : Owners) : List String → List String → Option String
  | _, [] => none
  | seen, type :: rest =>
      if (owners.find? type).isSome || seen.contains type then some type
      else taken? owners (type :: seen) rest

/-- Claims all types of a probe, or none. -/
def add (registry : Registry) (probe : Probe) : Except ReadinessError Registry :=
  match taken? registry.owners [] probe.types with
  | some type => .error (.typeTaken type)
  | none =>
      let place := registry.probes.length
      .ok ⟨registry.probes ++ [probe], registry.owners ++ probe.types.map fun type => (type, place)⟩

end Registry

end AccessGate
