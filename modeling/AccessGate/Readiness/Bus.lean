import AccessGate.Readiness.Registry

/-!
The way of an event to its probe. There is room for one event; senders that find it taken wait
aside, in any order. One receiver takes events out and routes them, from when the bus is first
watched until that is cancelled; after that, events are dropped.
-/

namespace AccessGate

/-- Who takes events out. -/
inductive Receiver where
  | untaken
  /-- Routes by the owners of the time when the watch began. -/
  | routing (owners : Owners)
  | gone

structure Bus where
  buffer : Option String
  waiting : List String
  receiver : Receiver
  /-- Events that were taken out, oldest first, with the place of the probe that got them. -/
  routed : List (String × Option Nat)

namespace Bus

def empty : Bus := ⟨none, [], .untaken, []⟩

/-- Never waits: an event that finds no room is sent from aside. -/
def dispatch (event : String) (bus : Bus) : Bus :=
  match bus.receiver, bus.buffer with
  | .gone, _ => bus
  | _, none => { bus with buffer := some event }
  | _, some _ => { bus with waiting := bus.waiting ++ [event] }

def admit? (index : Nat) (bus : Bus) : Option Bus :=
  match bus.buffer, bus.waiting[index]? with
  | none, some event =>
      some { bus with buffer := some event, waiting := bus.waiting.eraseIdx index }
  | _, _ => none

def route? (bus : Bus) : Option Bus :=
  match bus.receiver, bus.buffer with
  | .routing owners, some event =>
      some { bus with buffer := none, routed := bus.routed ++ [(event, owners.find? event)] }
  | _, _ => none

/-- Only the first watch takes the receiving end. -/
def watch (owners : Owners) (bus : Bus) : Bus :=
  match bus.receiver with
  | .untaken => { bus with receiver := .routing owners }
  | _ => bus

/-- A watch that begins when it is cancelled already takes the receiving end with it. -/
def watchCancelled (bus : Bus) : Bus :=
  match bus.receiver with
  | .untaken => { bus with receiver := .gone, buffer := none, waiting := [] }
  | _ => bus

def cancel (bus : Bus) : Bus :=
  match bus.receiver with
  | .routing _ => { bus with receiver := .gone, buffer := none, waiting := [] }
  | _ => bus

def isRouting (bus : Bus) : Bool :=
  match bus.receiver with
  | .routing _ => true
  | _ => false

def advance? (bus : Bus) : Option Bus := bus.route?.or (bus.admit? 0)

def pending (bus : Bus) : Nat := bus.waiting.length * 2 + (if bus.buffer.isSome then 1 else 0)

def advance : Nat → Bus → Bus
  | 0, bus => bus
  | n + 1, bus =>
      match bus.advance? with
      | some next => advance n next
      | none => bus

def settled (bus : Bus) : Bus := advance bus.pending bus

end Bus

/-- Probes, and the bus that brings them their events. -/
structure Readiness where
  registry : Registry
  bus : Bus

namespace Readiness

def empty : Readiness := ⟨.empty, .empty⟩

def gate : Readiness :=
  match Registry.empty.add .rules with
  | .ok registry => ⟨registry, .empty⟩
  | .error _ => empty

def received (readiness : Readiness) (place : Nat) : List String :=
  readiness.bus.routed.filterMap fun event =>
    if event.2 = some place then some event.1 else none

def receive (readiness : Readiness) (place : Nat) (event : String) : Readiness :=
  { readiness with
    bus := { readiness.bus with routed := readiness.bus.routed ++ [(event, some place)] } }

def objectionAt (readiness : Readiness) (probe : Probe × Nat) : Option (String × ReadinessError) :=
  (probe.1.objection (readiness.received probe.2)).map fun e => (probe.1.id, e)

def objections (readiness : Readiness) : List (String × ReadinessError) :=
  readiness.registry.probes.zipIdx.filterMap readiness.objectionAt

def isReady (readiness : Readiness) : Bool := readiness.objections.isEmpty

def dispatch (event : String) (readiness : Readiness) : Readiness :=
  { readiness with bus := readiness.bus.dispatch event }

def watch (readiness : Readiness) : Readiness :=
  { readiness with bus := readiness.bus.watch readiness.registry.owners }

def cancel (readiness : Readiness) : Readiness := { readiness with bus := readiness.bus.cancel }

def settled (readiness : Readiness) : Readiness := { readiness with bus := readiness.bus.settled }

end Readiness

end AccessGate
