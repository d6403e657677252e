import AccessGate.Text.Double

/-!
JSON values. Members keep the order in which they were first written, and a name stands at most
once: writing it again replaces the value where it stands.
-/

namespace AccessGate.Json

/-- Integers of 64 bits, signed or not, stay exact; every other number is a double. -/
inductive Number where
  | whole (value : Int)
  | real (value : Double)
  deriving DecidableEq, Inhabited, Repr

inductive Value where
  | null
  | bool (value : Bool)
  | number (value : Number)
  | string (value : String)
  | array (items : List Value)
  | object (members : List (String × Value))
  deriving Inhabited, Repr

abbrev Members := List (String × Value)

namespace Members

def get? (name : String) : Members → Option Value
  | [] => none
  | (key, value) :: rest => if key = name then some value else get? name rest

def insert (name : String) (value : Value) : Members → Members
  | [] => [(name, value)]
  | (key, old) :: rest =>
      if key = name then (key, value) :: rest else (key, old) :: insert name value rest

def erase (name : String) (members : Members) : Members :=
  members.filter (·.1 != name)

/-- Later members of one name replace earlier ones in their place. -/
def ofList (pairs : List (String × Value)) : Members :=
  pairs.foldl (fun members pair => insert pair.1 pair.2 members) []

def names (members : Members) : List String := members.map (·.1)

theorem get?_insert (name key : String) (value : Value) (members : Members) :
    get? name (insert key value members) =
      if key = name then some value else get? name members := by
  induction members with
  | nil => simp [insert, get?]
  | cons first rest ih =>
      obtain ⟨other, old⟩ := first
      by_cases same : other = key
      · subst same
        by_cases wanted : other = name <;> simp [insert, get?, wanted]
      · by_cases wanted : other = name
        · subst wanted
          simp [insert, get?, same, Ne.symm same]
        · simp [insert, get?, same, wanted, ih]

end Members

namespace Value

def text? : Value → Option String
  | .string s => some s
  | _ => none

def flag? : Value → Option Bool
  | .bool b => some b
  | _ => none

def items? : Value → Option (List Value)
  | .array items => some items
  | _ => none

def members? : Value → Option Members
  | .object members => some members
  | _ => none

def natural? : Value → Option Nat
  | .number (.whole (.ofNat n)) => some n
  | _ => none

def get? (value : Value) (name : String) : Option Value :=
  value.members?.bind (Members.get? name)

def ofNat (n : Nat) : Value := .number (.whole n)

def strings (items : List String) : Value := .array (items.map .string)

def ofOption : Option String → Value
  | some s => .string s
  | none => .null

end Value

end AccessGate.Json
