import AccessGate.Text.Blank
import AccessGate.Text.Utf8

/-!
Header fields: names are tokens in lower case, values are octets, and fields of one name keep the
order in which they came.
-/

namespace AccessGate.Http

abbrev Octets := List UInt8

def isTokenChar (c : Char) : Bool :=
  c.isAlphanum || "!#$%&'*+-.^_\x60|~".toList.contains c

def isToken (cs : List Char) : Bool := !cs.isEmpty && cs.all isTokenChar

/-- A field name is a token of at most 65535 characters, in lower case. -/
def fieldName? (cs : List Char) : Option String :=
  if isToken cs ∧ cs.length ≤ 65535 then some (String.ofList (Text.lower cs)) else none

/-- Controls but the tab are no part of a field value. -/
def isValueOctet (b : UInt8) : Bool := (0x20 ≤ b && b != 0x7F) || b == 0x09

def fieldValue? (octets : Octets) : Option Octets :=
  if octets.all isValueOctet then some octets else none

def fieldText? (s : String) : Option Octets := fieldValue? (Utf8.encode s.toList)

/-- A value is textual when its octets are visible ASCII, blanks or tabs. -/
def isTextOctet (b : UInt8) : Bool := (0x20 ≤ b && b ≤ 0x7E) || b == 0x09

def textual? (value : Octets) : Option (List Char) :=
  if value.all isTextOctet then some (value.map fun b => Char.ofNat b.toNat) else none

abbrev Headers := List (String × Octets)

namespace Headers

def get? (name : String) (headers : Headers) : Option Octets :=
  (headers.find? (·.1 == name)).map (·.2)

def getAll (name : String) (headers : Headers) : List Octets :=
  (headers.filter (·.1 == name)).map (·.2)

def text? (name : String) (headers : Headers) : Option (List Char) :=
  (headers.get? name).bind textual?

def erase (name : String) (headers : Headers) : Headers :=
  headers.filter (·.1 != name)

def insert (name : String) (value : Octets) (headers : Headers) : Headers :=
  headers.erase name ++ [(name, value)]

def append (name : String) (value : Octets) (headers : Headers) : Headers :=
  headers ++ [(name, value)]

def contains (name : String) (headers : Headers) : Bool := headers.any (·.1 == name)

theorem getAll_erase (name other : String) (headers : Headers) :
    getAll other (erase name headers) =
      if other = name then [] else getAll other headers := by
  induction headers with
  | nil => simp [getAll, erase]
  | cons field rest ih =>
      obtain ⟨key, value⟩ := field
      by_cases same : other = name
      · subst same
        by_cases hit : key = other <;> simp_all [getAll, erase]
      · by_cases hit : key = other
        · subst hit
          simp_all [getAll, erase]
        · by_cases gone : key = name <;> simp_all [getAll, erase]

theorem getAll_insert (name other : String) (value : Octets) (headers : Headers) :
    getAll other (insert name value headers) =
      if other = name then [value] else getAll other headers := by
  have kept : getAll other (insert name value headers) =
      getAll other (erase name headers) ++ getAll other [(name, value)] := by
    simp [getAll, insert]
  rw [kept, getAll_erase]
  by_cases same : other = name
  · simp [same, getAll]
  · simp [same, getAll, Ne.symm same]

end Headers

end AccessGate.Http
