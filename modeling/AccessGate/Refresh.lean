import AccessGate.Readiness.Bus
import AccessGate.Rule.Store

/-!
Refreshing in the background: an attempt at once, and then again after a pause. The pause is the
interval after a success; after failures it is short and grows, up to the interval.
-/

namespace AccessGate

namespace Refresh

def nextDelay (interval : Duration) (failures : Nat) : Duration :=
  if failures = 0 then interval else interval.shorter (.ofSeconds (failures + 1))

def maxFailures : Nat := Nat.pow 2 32 - 1

def failuresAfter (failures : Nat) (succeeded : Bool) : Nat :=
  if succeeded then 0 else min (failures + 1) maxFailures

inductive Stage where
  | attempting
  | resting (pause : Duration)
  | ended
  deriving DecidableEq, Repr

namespace Stage

def attempted? (interval : Duration) (failures : Nat) : Stage → Option Stage
  | attempting => some (.resting (nextDelay interval failures))
  | _ => none

def rested? : Stage → Option Stage
  | resting _ => some .attempting
  | _ => none

/-- A loop can be cancelled during an attempt and during a pause. -/
def cancelled? : Stage → Option Stage
  | ended => none
  | _ => some .ended

end Stage

def tell (env : Environment σ) (failures : Nat) : Action σ Unit :=
  if failures = 0 then pure () else env.tell (.failedRefresh failures)

end Refresh

/-- The loop that keeps the active rules, and tells the probes of each success. -/
structure RuleLoop where
  failures : Nat
  active : RuleSet
  readiness : Readiness

namespace RuleLoop

def after (loop : RuleLoop) (delivered : Except RuleError (List RuleSpec)) : RuleLoop :=
  match RuleSet.ofDelivery delivered with
  | .ok rules =>
      ⟨Refresh.failuresAfter loop.failures true, rules, loop.readiness.dispatch Probe.rulesLoaded⟩
  | .error _ => { loop with failures := Refresh.failuresAfter loop.failures false }

end RuleLoop

end AccessGate
