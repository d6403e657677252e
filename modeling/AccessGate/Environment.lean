import AccessGate.Http.Message

/-!
What the gate meets outside itself: other services, the clock, random octets and files. The outside
is a state that answers may depend on in any way.
-/

namespace AccessGate

/-- What ends the process. -/
inductive Crash where
  | clockOverflow
  | credentialsForAll
  deriving DecidableEq, Repr

/-- Something done in an outside state; a crash ends it all. -/
abbrev Action (σ : Type) := StateT σ (Except Crash)

structure Instant where
  seconds : Nat
  nanos : Fin 1000000000
  deriving DecidableEq, Repr, Inhabited

structure Duration where
  seconds : Nat
  nanos : Fin 1000000000
  deriving DecidableEq, Repr, Inhabited

namespace Duration

def ofSeconds (n : Nat) : Duration := ⟨n, 0⟩

def isShorter (a b : Duration) : Bool :=
  a.seconds < b.seconds || (a.seconds == b.seconds && a.nanos < b.nanos)

def shorter (a b : Duration) : Duration := if b.isShorter a then b else a

end Duration

/-- What an operator is told while the gate runs. -/
inductive Report where
  /-- A token did not help and was ignored; only its start is told. -/
  | ignoredToken (start : String)
  | failedRefresh (failures : Nat)
  deriving DecidableEq, Repr

structure Environment (σ : Type) where
  exchange : Http.Outgoing → σ → Option Http.Response × σ
  now : σ → Instant × σ
  random : Nat → σ → Http.Octets × σ
  fileContent : String → σ → Except String Http.Octets × σ
  report : Report → σ → σ
  listen : Net.SocketAddress → σ → Except String Unit × σ

namespace Environment

def instant (env : Environment σ) : Action σ Instant := fun s => .ok (env.now s)

def octets (env : Environment σ) (size : Nat) : Action σ Http.Octets :=
  fun s => .ok (env.random size s)

def file (env : Environment σ) (path : String) : Action σ (Except String Http.Octets) :=
  fun s => .ok (env.fileContent path s)

def tell (env : Environment σ) (report : Report) : Action σ Unit :=
  fun s => .ok ((), env.report report s)

def bind (env : Environment σ) (address : Net.SocketAddress) : Action σ (Except String Unit) :=
  fun s => .ok (env.listen address s)

def send (env : Environment σ) (request : Http.Outgoing) : Action σ (Option Http.Response) :=
  fun s => .ok (env.exchange request s)

end Environment

namespace Instant

def ofSeconds (n : Nat) : Instant := ⟨n, 0⟩

def lastSecond : Nat := Nat.pow 2 63 - 1

def after (t : Instant) (d : Duration) : Except Crash Instant :=
  let seconds := t.seconds + d.seconds + (t.nanos.val + d.nanos.val) / 1000000000
  if seconds ≤ lastSecond then .ok ⟨seconds, t.nanos + d.nanos⟩ else .error .clockOverflow

theorem after_ofSeconds (t : Instant) (n : Nat) :
    t.after (.ofSeconds n) =
      if t.seconds + n ≤ lastSecond then .ok { t with seconds := t.seconds + n }
      else .error .clockOverflow := by
  have whole : (t.nanos.val + (0 : Fin 1000000000).val) / 1000000000 = 0 :=
    Nat.div_eq_of_lt t.nanos.isLt
  simp only [after, Duration.ofSeconds, whole, Nat.add_zero, Fin.add_zero]

end Instant

end AccessGate
