import AccessGate.Json.Value
import AccessGate.Text.Blank

/-!
Configuration texts in sections of `name = value` lines. A section is written once; one that a
longer header only passed through may still be written, one that was made by a dotted name may not.
Dates are read as their texts.
-/

namespace AccessGate.Toml

open Json
open Text (hexValue? valueIn digitValue? natural?)

/-- How a table came to be there. -/
inductive Origin where
  | passedThrough
  | header
  | dotted
  deriving DecidableEq, Repr

inductive Item where
  | value (v : Value)
  | table (origin : Origin) (entries : List (String × Item))
  | tables (list : List (List (String × Item)))
  deriving Inhabited

abbrev Entries := List (String × Item)

namespace Entries

def get? (name : String) : Entries → Option Item
  | [] => none
  | (key, item) :: rest => if key = name then some item else get? name rest

def put (name : String) (item : Item) : Entries → Entries
  | [] => [(name, item)]
  | (key, old) :: rest =>
      if key = name then (key, item) :: rest else (key, old) :: put name item rest

def assign (v : Value) : List String → Entries → Option Entries
  | [], _ => none
  | [name], entries =>
      match entries.get? name with
      | none => some (entries.put name (.value v))
      | some _ => none
  | name :: rest, entries =>
      match entries.get? name with
      | none => (assign v rest []).map fun inner => entries.put name (.table .dotted inner)
      | some (.table .header _) => none
      | some (.table origin inner) =>
          (assign v rest inner).map fun inner => entries.put name (.table origin inner)
      | some _ => none

def onLast (change : α → Option α) : List α → Option (List α)
  | [] => none
  | [last] => (change last).map fun last => [last]
  | first :: rest => (onLast change rest).map (first :: ·)

/-- Changes the table that a header path leads to, the last one where there are several. -/
def within (change : Entries → Option Entries) : List String → Entries → Option Entries
  | [], entries => change entries
  | name :: rest, entries =>
      match entries.get? name with
      | none =>
          (within change rest []).map fun inner => entries.put name (.table .passedThrough inner)
      | some (.table origin inner) =>
          (within change rest inner).map fun inner => entries.put name (.table origin inner)
      | some (.tables list) =>
          (onLast (within change rest) list).map fun list => entries.put name (.tables list)
      | some (.value _) => none

def openTable (name : String) (entries : Entries) : Option Entries :=
  match entries.get? name with
  | none => some (entries.put name (.table .header []))
  | some (.table .passedThrough inner) => some (entries.put name (.table .header inner))
  | some _ => none

def openNext (name : String) (entries : Entries) : Option Entries :=
  match entries.get? name with
  | none => some (entries.put name (.tables [[]]))
  | some (.tables list) => some (entries.put name (.tables (list ++ [[]])))
  | some _ => none

end Entries

mutual

def Item.toJson : Item → Value
  | .value v => v
  | .table _ entries => .object (membersOf entries)
  | .tables list => .array (valuesOf list)

def membersOf : List (String × Item) → Members
  | [] => []
  | (name, item) :: rest => (name, item.toJson) :: membersOf rest

def valuesOf : List (List (String × Item)) → List Value
  | [] => []
  | entries :: rest => .object (membersOf entries) :: valuesOf rest

end

/-! ## Blanks -/

def isBlank (c : Char) : Bool := c == ' ' || c == '\t'

def skipBlanks (cs : List Char) : List Char := cs.dropWhile isBlank

/-- Control characters other than the tab stand nowhere but at the ends of lines. -/
def isControl (c : Char) : Bool := (c.toNat < 32 && c != '\t') || c.toNat == 127

def newline? : List Char → Option (List Char)
  | '\n' :: rest => some rest
  | '\r' :: '\n' :: rest => some rest
  | _ => none

def skipComment (cs : List Char) : List Char :=
  match cs with
  | '#' :: rest => rest.dropWhile fun c => !isControl c
  | _ => cs

def lineEnd? (cs : List Char) : Option (List Char) :=
  match skipComment (skipBlanks cs) with
  | [] => some []
  | rest => newline? rest

def skipLines : Nat → List Char → List Char
  | 0, cs => cs
  | fuel + 1, cs =>
      let rest := skipComment (skipBlanks cs)
      match newline? rest with
      | some next => skipLines fuel next
      | none => rest

/-! ## Texts -/

def scalar? (digits : List Char) : Option Char :=
  (digits.mapM hexValue?).bind fun values =>
    let n := valueIn 16 values
    if n.isValidChar then some (Char.ofNat n) else none

def escape? : List Char → Option (Char × List Char)
  | 'b' :: rest => some (Char.ofNat 8, rest)
  | 't' :: rest => some ('\t', rest)
  | 'n' :: rest => some ('\n', rest)
  | 'f' :: rest => some (Char.ofNat 12, rest)
  | 'r' :: rest => some ('\r', rest)
  | '"' :: rest => some ('"', rest)
  | '\\' :: rest => some ('\\', rest)
  | 'u' :: rest =>
      if rest.length < 4 then none else (scalar? (rest.take 4)).map (·, rest.drop 4)
  | 'U' :: rest =>
      if rest.length < 8 then none else (scalar? (rest.take 8)).map (·, rest.drop 8)
  | _ => none

def basic : Nat → List Char → Option (List Char × List Char)
  | 0, _ => none
  | _ + 1, [] => none
  | _ + 1, '"' :: rest => some ([], rest)
  | fuel + 1, '\\' :: rest => do
      let (c, rest) ← escape? rest
      let (text, rest) ← basic fuel rest
      some (c :: text, rest)
  | fuel + 1, c :: rest =>
      if isControl c then none else (basic fuel rest).map fun found => (c :: found.1, found.2)

def literal : List Char → Option (List Char × List Char)
  | [] => none
  | '\'' :: rest => some ([], rest)
  | c :: rest =>
      if isControl c then none else (literal rest).map fun found => (c :: found.1, found.2)

/-- The end of a text in several lines; up to two more quotes belong to the text. -/
def closing? (quote : Char) (cs : List Char) : Option (List Char × List Char) :=
  let quotes := (cs.takeWhile (· == quote)).take 5
  if quotes.length < 3 then none else some (quotes.drop 3, cs.drop quotes.length)

def isSpace (c : Char) : Bool := isBlank c || c == '\n' || c == '\r'

/-- The text behind a backslash that ends its line, without the blanks that begin the next ones. -/
def continued? (cs : List Char) : Option (List Char) :=
  (newline? (skipBlanks cs)).map fun rest => rest.dropWhile isSpace

def lines (quote : Char) : Nat → List Char → Option (List Char × List Char)
  | 0, _ => none
  | fuel + 1, cs =>
      match closing? quote cs, newline? cs, cs with
      | some found, _, _ => some found
      | none, some rest, _ =>
          (lines quote fuel rest).map fun found => ('\n' :: found.1, found.2)
      | none, none, [] => none
      | none, none, c :: rest =>
          if c = '\\' ∧ quote = '"' then
            match continued? rest, escape? rest with
            | some rest, _ => lines quote fuel rest
            | none, some (c, rest) =>
                (lines quote fuel rest).map fun found => (c :: found.1, found.2)
            | none, none => none
          else if isControl c then none
          else (lines quote fuel rest).map fun found => (c :: found.1, found.2)

def firstNewline (cs : List Char) : List Char := (newline? cs).getD cs

def quoted? (fuel : Nat) : List Char → Option (List Char × List Char)
  | '"' :: '"' :: '"' :: rest => lines '"' fuel (firstNewline rest)
  | '\'' :: '\'' :: '\'' :: rest => lines '\'' fuel (firstNewline rest)
  | '"' :: rest => basic fuel rest
  | '\'' :: rest => literal rest
  | _ => none

/-! ## Names -/

def isBare (c : Char) : Bool := c.isAlphanum || c == '_' || c == '-'

def simpleName? (fuel : Nat) (cs : List Char) : Option (String × List Char) :=
  match cs with
  | '"' :: rest => (basic fuel rest).map fun found => (String.ofList found.1, found.2)
  | '\'' :: rest => (literal rest).map fun found => (String.ofList found.1, found.2)
  | _ =>
      let name := cs.takeWhile isBare
      if name.isEmpty then none else some (String.ofList name, cs.drop name.length)

def name? : Nat → List Char → Option (List String × List Char)
  | 0, _ => none
  | fuel + 1, cs => do
      let (first, rest) ← simpleName? fuel (skipBlanks cs)
      match skipBlanks rest with
      | '.' :: rest => do
          let (names, rest) ← name? fuel rest
          some (first :: names, rest)
      | rest => some ([first], rest)

/-! ## Numbers and dates -/

/-- Digits that single underscores may divide. -/
def digitsOf? (isDigit : Char → Bool) (cs : List Char) : Option (List Char) :=
  let groups := Text.pieces '_' cs
  if groups.all fun group => !group.isEmpty && group.all isDigit then some groups.flatten else none

def inRange? (i : Int) : Option Value :=
  if -(Nat.pow 2 63) ≤ i ∧ i < Nat.pow 2 63 then some (.number (.whole i)) else none

def based? (base : Nat) (cs : List Char) : Option Value := do
  let digits ← digitsOf? (fun c => (hexValue? c).any (· < base)) cs
  let values ← digits.mapM hexValue?
  inRange? (valueIn base values)

def decimal? (cs : List Char) : Option (List Char) :=
  (digitsOf? Char.isDigit cs).filter fun digits => digits.length = 1 || digits.head? != some '0'

def signedWhole? (negative : Bool) (cs : List Char) : Option Value := do
  let n ← natural? (← decimal? cs)
  inRange? (if negative then -(n : Int) else n)

/-- The exponent of a real number, zero when there is none. -/
def exponent? : Option (List Char) → Option Int
  | none => some 0
  | some cs =>
      let (negative, digits) := match cs with
        | '-' :: rest => (true, rest)
        | '+' :: rest => (false, rest)
        | _ => (false, cs)
      ((digitsOf? Char.isDigit digits).bind natural?).map fun (n : Nat) =>
        if negative then -(n : Int) else (n : Int)

def realOf (negative : Bool) (digits : Nat) (power : Int) : Option Value :=
  let x := Float.ofScientific digits (power < 0) power.natAbs
  if x.isInf then none
  else some (.number (.real (.ofFloat (if negative then -x else x))))

def signedReal? (negative : Bool) (cs : List Char) : Option Value := do
  let cs := cs.map fun c => if c = 'E' then 'e' else c
  let (mantissa, power) := Text.cut 'e' cs
  let (whole, fraction) := Text.cut '.' mantissa
  let whole ← decimal? whole
  let fraction ← match fraction with
    | some digits => digitsOf? Char.isDigit digits
    | none => if power.isSome then some [] else none
  let power ← exponent? power
  let digits ← natural? (whole ++ fraction)
  realOf negative digits (power - fraction.length)

def infinity : Double := ⟨0x7FF0000000000000⟩

def notANumber : Double := ⟨0x7FF8000000000000⟩

def signedNumber? (negative : Bool) (cs : List Char) : Option Value :=
  if cs = "inf".toList then
    some (.number (.real (if negative then ⟨infinity.bits ||| 0x8000000000000000⟩ else infinity)))
  else if cs = "nan".toList then some (.number (.real notANumber))
  else (signedWhole? negative cs).or (signedReal? negative cs)

def number? : List Char → Option Value
  | '0' :: 'x' :: rest => based? 16 rest
  | '0' :: 'o' :: rest => based? 8 rest
  | '0' :: 'b' :: rest => based? 2 rest
  | '+' :: rest => signedNumber? false rest
  | '-' :: rest => signedNumber? true rest
  | cs => signedNumber? false cs

def fixed? (size low high : Nat) (cs : List Char) : Option Nat :=
  if cs.length = size then (natural? cs).filter fun n => low ≤ n && n ≤ high else none

def daysIn (year month : Nat) : Nat :=
  if month = 2 then
    if year % 4 = 0 ∧ (year % 100 ≠ 0 ∨ year % 400 = 0) then 29 else 28
  else if [4, 6, 9, 11].contains month then 30 else 31

def isDate (cs : List Char) : Bool :=
  match Text.pieces '-' cs with
  | [year, month, day] =>
      match fixed? 4 0 9999 year, fixed? 2 1 12 month with
      | some year, some month => (fixed? 2 1 (daysIn year month) day).isSome
      | _, _ => false
  | _ => false

def time? (cs : List Char) : Option (List Char) :=
  let (clock, fraction) := Text.cut '.' cs
  match Text.pieces ':' clock with
  | [hour, minute, second] =>
      if (fixed? 2 0 23 hour).isSome && (fixed? 2 0 59 minute).isSome &&
          (fixed? 2 0 60 second).isSome then
        match fraction with
        | none => some clock
        | some digits =>
            if digits.isEmpty || !digits.all Char.isDigit then none
            else
              let short := Text.dropEnd '0' (digits.take 9)
              some (if short.isEmpty then clock else clock ++ '.' :: short)
      else none
  | _ => none

def isOffset (cs : List Char) : Bool :=
  match Text.pieces ':' cs with
  | [hours, minutes] => (fixed? 2 0 24 hours).isSome && (fixed? 2 0 59 minutes).isSome
  | _ => false

def zoned? (cs : List Char) : Option (List Char) :=
  let clock := cs.takeWhile fun c => c.isDigit || c == ':' || c == '.'
  match cs.drop clock.length with
  | [] => time? clock
  | ['Z'] => (time? clock).map (· ++ ['Z'])
  | ['z'] => (time? clock).map (· ++ ['Z'])
  | sign :: offset =>
      if (sign = '+' ∨ sign = '-') ∧ isOffset offset then
        (time? clock).map (· ++ sign :: offset)
      else none

def date? (cs : List Char) : Option (List Char) :=
  let day := cs.take 10
  match cs.drop 10 with
  | [] => if isDate day then some day else time? cs
  | mark :: clock =>
      if isDate day ∧ (mark = 'T' ∨ mark = 't') then (zoned? clock).map (day ++ 'T' :: ·)
      else time? cs

/-! ## Values -/

def isPlain (c : Char) : Bool := isBare c || c == '+' || c == '.' || c == ':'

/-- The plain text in front; a date may be followed by its time behind a blank. -/
def plainText (cs : List Char) : List Char × List Char :=
  let plain := cs.takeWhile isPlain
  let rest := cs.drop plain.length
  match isDate plain, rest with
  | true, ' ' :: digit :: behind =>
      if digit.isDigit then
        let clock := (digit :: behind).takeWhile isPlain
        (plain ++ 'T' :: clock, (digit :: behind).drop clock.length)
      else (plain, rest)
  | _, _ => (plain, rest)

def plain? (cs : List Char) : Option Value :=
  if cs = "true".toList then some (.bool true)
  else if cs = "false".toList then some (.bool false)
  else (number? cs).or ((date? cs).map fun text => .string (String.ofList text))

mutual

def value? : Nat → List Char → Option (Value × List Char)
  | 0, _ => none
  | fuel + 1, cs =>
      match cs with
      | '[' :: rest => (items? fuel rest).map fun found => (.array found.1, found.2)
      | '\x7b' :: rest =>
          match skipBlanks rest with
          | '\x7d' :: rest => some (.object [], rest)
          | rest => (fields? fuel [] rest).map fun found => (.object (membersOf found.1), found.2)
      | _ =>
          match quoted? fuel cs with
          | some (text, rest) => some (.string (String.ofList text), rest)
          | none =>
              let (plain, rest) := plainText cs
              (plain? plain).map (·, rest)

/-- The rest of a list; a comma may stand behind its last item. -/
def items? : Nat → List Char → Option (List Value × List Char)
  | 0, _ => none
  | fuel + 1, cs =>
      match skipLines (fuel + 1) cs with
      | ']' :: rest => some ([], rest)
      | cs =>
          match value? fuel cs with
          | none => none
          | some (first, rest) =>
              match skipLines (fuel + 1) rest with
              | ']' :: rest => some ([first], rest)
              | ',' :: rest => (items? fuel rest).map fun found => (first :: found.1, found.2)
              | _ => none

def fields? : Nat → Entries → List Char → Option (Entries × List Char)
  | 0, _, _ => none
  | fuel + 1, entries, cs =>
      match name? fuel cs with
      | some (names, '=' :: rest) =>
          match value? fuel (skipBlanks rest) with
          | none => none
          | some (v, rest) =>
              match entries.assign v names, skipBlanks rest with
              | some entries, '\x7d' :: rest => some (entries, rest)
              | some entries, ',' :: rest => fields? fuel entries rest
              | _, _ => none
      | _ => none

end

/-! ## Whole texts -/

/-- What was read so far, and the table that lines go to now. -/
structure State where
  root : Entries
  path : List String

def split? : List String → Option (List String × String)
  | [] => none
  | [last] => some ([], last)
  | first :: rest => (split? rest).map fun found => (first :: found.1, found.2)

def header? (fuel : Nat) (state : State) (cs : List Char) : Option (State × List Char) :=
  match cs with
  | '[' :: rest =>
      match name? fuel rest with
      | some (names, ']' :: ']' :: rest) => do
          let (path, last) ← split? names
          let root ← state.root.within (·.openNext last) path
          some (⟨root, names⟩, rest)
      | _ => none
  | _ =>
      match name? fuel cs with
      | some (names, ']' :: rest) => do
          let (path, last) ← split? names
          let root ← state.root.within (·.openTable last) path
          some (⟨root, names⟩, rest)
      | _ => none

def assignment? (fuel : Nat) (state : State) (cs : List Char) : Option (State × List Char) :=
  match name? fuel cs with
  | some (names, '=' :: rest) => do
      let (v, rest) ← value? fuel (skipBlanks rest)
      let root ← state.root.within (·.assign v names) state.path
      some (⟨root, state.path⟩, rest)
  | _ => none

def statement? (fuel : Nat) (state : State) (cs : List Char) : Option (State × List Char) :=
  match cs with
  | '[' :: rest => header? fuel state rest
  | _ => assignment? fuel state cs

def statements? : Nat → State → List Char → Option State
  | 0, _, _ => none
  | fuel + 1, state, cs =>
      match skipLines (fuel + 1) cs with
      | [] => some state
      | cs =>
          match statement? (fuel + 1) state cs with
          | none => none
          | some (state, rest) =>
              match lineEnd? rest with
              | none => none
              | some rest => statements? fuel state rest

/-- The text without the mark that may stand in front of it. -/
def withoutMark : List Char → List Char
  | c :: rest => if c.toNat = 0xFEFF then rest else c :: rest
  | [] => []

def parse? (cs : List Char) : Option Members :=
  let cs := withoutMark cs
  (statements? (cs.length + 2) ⟨[], []⟩ cs).map fun state => membersOf state.root

end AccessGate.Toml
