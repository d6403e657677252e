import AccessGate.Keys.Basic

/-!
One held key and many callers at once. Callers that find no key, and those that want a fresh one,
take turns: only the one whose turn it is asks the source. Each step of a caller is small, and steps
of different callers may come in any order.
-/

namespace AccessGate

/-- What a caller came for. -/
inductive KeyWish where
  | current
  | fresh
  deriving DecidableEq, Repr, Inhabited

/-- What a caller leaves with. -/
inductive KeyOutcome where
  | key (key : SigningKey)
  | refreshed
  | failed (error : KeyError)
  deriving Inhabited, Repr

inductive KeyStage where
  /-- Looks whether there is a key. -/
  | looking
  /-- Waits for its turn. -/
  | waiting
  /-- Has its turn, but has asked for nothing yet. -/
  | admitted
  /-- Has asked the source. -/
  | loading
  /-- Was given a key that is not in place yet. -/
  | loaded (key : SigningKey)
  /-- Has put a key into place. -/
  | stored
  /-- Is done but for giving up its turn. -/
  | leaving (outcome : KeyOutcome)
  | finished (outcome : KeyOutcome)
  deriving Inhabited, Repr

structure KeyCaller where
  wish : KeyWish
  stage : KeyStage
  deriving Inhabited, Repr

namespace KeyCaller

def ofWish : KeyWish → KeyCaller
  | .current => ⟨.current, .looking⟩
  | .fresh => ⟨.fresh, .waiting⟩

/-- Whether the caller is between asking the source and having the key in place. -/
def isReloading (caller : KeyCaller) : Bool :=
  match caller.stage with
  | .loading => true
  | .loaded _ => true
  | _ => false

end KeyCaller

structure KeySharing where
  current : Option SigningKey
  turn : Option Nat
  callers : List KeyCaller
  deriving Inhabited

namespace KeySharing

def ofWishes (current : Option SigningKey) (wishes : List KeyWish) : KeySharing :=
  ⟨current, none, wishes.map KeyCaller.ofWish⟩

def outcomeOf : Option SigningKey → KeyOutcome
  | some key => .key key
  | none => .failed (.refreshFailed "no key loaded after refresh")

def moved (sharing : KeySharing) (index : Nat) (caller : KeyCaller) (stage : KeyStage) :
    KeySharing :=
  { sharing with callers := sharing.callers.set index { caller with stage := stage } }

/-- What a caller does once it has its turn; one that wants any key looks again. -/
def atTurn (sharing : KeySharing) (wish : KeyWish) : KeyStage :=
  match wish, sharing.current with
  | .current, some key => .leaving (.key key)
  | _, _ => .loading

def afterLoad : Except KeyError SigningKey → KeyStage
  | .ok key => .loaded key
  | .error e => .leaving (.failed e)

/-- The next step of a caller that stands somewhere, unless it has to wait or is finished. The
source delivers what is given, in case that the step asks for it. -/
def stepOf (sharing : KeySharing) (index : Nat) (caller : KeyCaller)
    (delivered : Except KeyError SigningKey) : Option KeySharing :=
  match caller.stage with
  | .looking =>
      match sharing.current with
      | some key => some (sharing.moved index caller (.finished (.key key)))
      | none => some (sharing.moved index caller .waiting)
  | .waiting =>
      match sharing.turn with
      | some _ => none
      | none => some { sharing.moved index caller .admitted with turn := some index }
  | .admitted => some (sharing.moved index caller (sharing.atTurn caller.wish))
  | .loading => some (sharing.moved index caller (afterLoad delivered))
  | .loaded key =>
      let stage := match caller.wish with
        | .current => KeyStage.stored
        | .fresh => .leaving .refreshed
      some { sharing.moved index caller stage with current := some key }
  | .stored => some (sharing.moved index caller (.leaving (outcomeOf sharing.current)))
  | .leaving outcome => some { sharing.moved index caller (.finished outcome) with turn := none }
  | .finished _ => none

def step? (sharing : KeySharing) (index : Nat) (delivered : Except KeyError SigningKey) :
    Option KeySharing :=
  (sharing.callers[index]?).bind fun caller => sharing.stepOf index caller delivered

/-- Steps in the order of a schedule; one that cannot be made ends it. -/
def run : List (Nat × Except KeyError SigningKey) → KeySharing → Option KeySharing
  | [], sharing => some sharing
  | (index, delivered) :: rest, sharing => (sharing.step? index delivered).bind (run rest)

end KeySharing

end AccessGate
