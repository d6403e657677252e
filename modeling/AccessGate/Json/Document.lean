import AccessGate.Json.Fault
import AccessGate.Json.Printer
import AccessGate.Text.Utf8

/-!
A JSON text as a tree of places.

The tree is built once, up to the first fault; the fault itself is a leaf. A reader that walks the
tree in document order therefore meets a fault of the text only when it gets there, after any
objection of its own to what stands before. Each container also records what a reader reports that
wants no further entry, and whether it stands too deep to be read.
-/

namespace AccessGate.Json

open Text (hexValue? valueIn digitValue?)

/-- The rest of a text and where it begins. -/
structure Cursor where
  rest : List Char
  line : Nat
  column : Nat

namespace Cursor

def start (cs : List Char) : Cursor := ⟨cs, 1, 0⟩

def place (cur : Cursor) : Place := ⟨cur.line, cur.column⟩

def step (cur : Cursor) (c : Char) (rest : List Char) : Cursor :=
  if c = '\n' then ⟨rest, cur.line + 1, 0⟩ else ⟨rest, cur.line, cur.column + c.utf8Size⟩

def peekPlace (cur : Cursor) : Place :=
  match cur.rest with
  | [] => cur.place
  | '\n' :: _ => ⟨cur.line + 1, 0⟩
  | _ => ⟨cur.line, cur.column + 1⟩

def fail (cur : Cursor) (fault : Fault) : SyntaxError := ⟨fault, cur.place⟩

def peekFail (cur : Cursor) (fault : Fault) : SyntaxError := ⟨fault, cur.peekPlace⟩

def isBlank (c : Char) : Bool := c == ' ' || c == '\n' || c == '\t' || c == '\r'

def skip : List Char → Cursor → Cursor
  | [], cur => cur
  | c :: rest, cur => if isBlank c then skip rest (cur.step c rest) else cur

def skipBlanks (cur : Cursor) : Cursor := skip cur.rest cur

def advance (cur : Cursor) : List Char → Cursor
  | [] => cur
  | c :: more => advance (cur.step c cur.rest.tail) more

end Cursor

def word (cur : Cursor) : List Char → Except SyntaxError Cursor
  | [] => .ok cur
  | expected :: more =>
      match cur.rest with
      | [] => .error (cur.fail .endInValue)
      | c :: rest =>
          let next := cur.step c rest
          if c = expected then word next more else .error (next.fail .wordExpected)

/-- What has been made out of a string so far: its text backwards, and the first fault that only
a reader of the text minds. -/
structure Spelling where
  backwards : List Char
  fault : Option SyntaxError

def Spelling.push (s : Spelling) (c : Char) : Spelling := { s with backwards := c :: s.backwards }

def Spelling.mind (s : Spelling) (e : SyntaxError) : Spelling :=
  { s with fault := s.fault.or (some e) }

def Spelling.read (s : Spelling) : Except SyntaxError String :=
  match s.fault with
  | some e => .error e
  | none => .ok (String.ofList s.backwards.reverse)

def fourDigits (cur : Cursor) : Except SyntaxError (Nat × Cursor) :=
  match cur.rest with
  | a :: b :: c :: d :: _ =>
      let next := cur.advance [a, b, c, d]
      match [a, b, c, d].mapM hexValue? with
      | some digits => .ok (valueIn 16 digits, next)
      | none => .error (next.fail .badEscape)
  | _ => .error ((cur.advance cur.rest).fail .endInString)

def isHighSurrogate (n : Nat) : Bool := 0xD800 ≤ n && n ≤ 0xDBFF

def isLowSurrogate (n : Nat) : Bool := 0xDC00 ≤ n && n ≤ 0xDFFF

/-- The part of a string behind a high surrogate's escape: the other half of the pair. -/
def lowHalf (high : Nat) (s : Spelling) (cur : Cursor) :
    Except SyntaxError (Spelling × Cursor) :=
  match cur.rest with
  | [] => .error (cur.fail .endInString)
  | '\\' :: 'u' :: rest =>
      match fourDigits ((cur.step '\\' ('u' :: rest)).step 'u' rest) with
      | .error e => .error e
      | .ok (low, next) =>
          if isLowSurrogate low then
            .ok (s.push (Char.ofNat (0x10000 + (high - 0xD800) * 0x400 + (low - 0xDC00))), next)
          else .ok (s.mind (next.fail .loneSurrogate), next)
  | '\\' :: [] => .error ((cur.step '\\' []).fail .endInString)
  | '\\' :: c :: rest =>
      let seen := (cur.step '\\' (c :: rest)).step c rest
      .ok (s.mind (seen.fail .escapeCutShort), cur)
  | c :: rest => .ok (s.mind ((cur.step c rest).fail .escapeCutShort), cur)

def escapeSequence (s : Spelling) (cur : Cursor) : Except SyntaxError (Spelling × Cursor) :=
  match cur.rest with
  | [] => .error (cur.fail .endInString)
  | c :: rest =>
      let next := cur.step c rest
      match c with
      | '"' => .ok (s.push '"', next)
      | '\\' => .ok (s.push '\\', next)
      | '/' => .ok (s.push '/', next)
      | 'b' => .ok (s.push (Char.ofNat 8), next)
      | 'f' => .ok (s.push (Char.ofNat 12), next)
      | 'n' => .ok (s.push '\n', next)
      | 'r' => .ok (s.push '\r', next)
      | 't' => .ok (s.push '\t', next)
      | 'u' =>
          match fourDigits next with
          | .error e => .error e
          | .ok (n, after) =>
              if isLowSurrogate n then .ok (s.mind (after.fail .loneSurrogate), after)
              else if isHighSurrogate n then lowHalf n s after
              else .ok (s.push (Char.ofNat n), after)
      | _ => .error (next.fail .badEscape)

def stringRest : Nat → Spelling → Cursor → Except SyntaxError (Spelling × Cursor)
  | 0, _, cur => .error (cur.fail .endInString)
  | fuel + 1, s, cur =>
      match cur.rest with
      | [] => .error (cur.fail .endInString)
      | c :: rest =>
          let next := cur.step c rest
          if c = '"' then .ok (s, next)
          else if c = '\\' then
            match escapeSequence s next with
            | .error e => .error e
            | .ok (s, after) => stringRest fuel s after
          else if c.toNat < 32 then
            .error (next.fail .controlCharacter)
          else stringRest fuel (s.push c) next

/-- A whole string; the fuel is more than there are characters left. -/
def stringBody (fuel : Nat) (cur : Cursor) : Except SyntaxError (Spelling × Cursor) :=
  stringRest fuel ⟨[], none⟩ cur

/-- Digits as long as the value stays within 64 bits: the value, how many were taken, and the rest
of the run, whose digits only count. -/
def digitsWithin : Nat → Nat → List Char → Nat × Nat × List Char
  | value, taken, [] => (value, taken, [])
  | value, taken, c :: rest =>
      match digitValue? c with
      | none => (value, taken, c :: rest)
      | some d =>
          if value * 10 + d < Nat.pow 2 64 then digitsWithin (value * 10 + d) (taken + 1) rest
          else (value, taken, c :: rest)

def digitRun (cs : List Char) : List Char := cs.takeWhile Char.isDigit

/-- The double `value * 10 ^ power`, rounded once for the value and once for each scaling. -/
def scaleSteps : Nat → Float → Int → Option Float
  | 0, _, _ => none
  | fuel + 1, f, power =>
      if power.natAbs ≤ 308 then
        if 0 ≤ power then
          let scaled := f * Float.ofScientific 1 false power.natAbs
          if scaled.isInf then none else some scaled
        else some (f / Float.ofScientific 1 false power.natAbs)
      else if f == 0.0 then some f
      else if 0 ≤ power then none
      else scaleSteps fuel (f / 1e308) (power + 308)

def scaled? (negative : Bool) (value : Nat) (power : Int) : Option Number :=
  (scaleSteps 64 (Float.ofNat value) power).map fun f =>
    .real (.ofFloat (if negative then -f else f))

/-- What the characters of a number say. -/
inductive Numeral where
  | fault (f : Fault) (length : Nat) (peek : Bool)
  | read (length : Nat) (value : Option Number)

def exponentPart (negative : Bool) (value : Nat) (power : Int) (length : Nat)
    (cs : List Char) : Numeral :=
  let signLength := match cs with
    | '+' :: _ => 1
    | '-' :: _ => 1
    | _ => 0
  let minus := cs.head? == some '-'
  let digits := cs.drop signLength
  match digits with
  | [] => .fault .endInValue (length + signLength) false
  | c :: _ =>
      if c.isDigit then
        let run := digitRun digits
        let size := valueIn 10 (run.filterMap digitValue?)
        let total := length + signLength + run.length
        if size < Nat.pow 2 31 then
          .read total (scaled? negative value (if minus then power - size else power + size))
        else if value = 0 ∨ minus then
          .read total (some (.real (.ofFloat (if negative then -0.0 else 0.0))))
        else .read total none
      else .fault .badNumber (length + signLength + 1) false

def fractionPart (negative : Bool) (value : Nat) (power : Int) (length : Nat)
    (cs : List Char) : Numeral :=
  let part := digitsWithin value 0 cs
  let spare := digitRun part.2.2
  let rest := part.2.2.drop spare.length
  let total := length + part.2.1 + spare.length
  let power := power - part.2.1
  if part.2.1 = 0 ∧ spare.isEmpty then
    if rest.isEmpty then .fault .endInValue length true else .fault .badNumber length true
  else match rest with
    | 'e' :: more => exponentPart negative part.1 power (total + 1) more
    | 'E' :: more => exponentPart negative part.1 power (total + 1) more
    | _ => .read total (scaled? negative part.1 power)

def numeral (negative : Bool) (length : Nat) (cs : List Char) : Numeral :=
  match cs with
  | [] => .fault .endInValue length false
  | c :: rest =>
      if c.isDigit = false then .fault .badNumber (length + 1) false
      else if c = '0' ∧ (rest.head?.map Char.isDigit) = some true then
        .fault .badNumber (length + 1) true
      else
        let part := digitsWithin 0 0 (if c = '0' then ['0'] else cs)
        let after := if c = '0' then rest else part.2.2
        let spare := digitRun after
        let rest := after.drop spare.length
        let total := length + part.2.1 + spare.length
        match rest with
        | '.' :: more => fractionPart negative part.1 spare.length (total + 1) more
        | 'e' :: more => exponentPart negative part.1 spare.length (total + 1) more
        | 'E' :: more => exponentPart negative part.1 spare.length (total + 1) more
        | _ =>
            if spare.isEmpty = false then .read total (scaled? negative part.1 spare.length)
            else if negative = false then .read total (some (.whole part.1))
            else if part.1 = 0 ∨ Nat.pow 2 63 < part.1 then
              .read total (some (.real (.ofFloat (-(Float.ofNat part.1)))))
            else .read total (some (.whole (-(part.1 : Int))))

mutual

/-- A value in a text, or in no text at all (then without places). A value given as such is
opened one level at a time. -/
inductive Node where
  | given (value : Value)
  | broken (e : SyntaxError)
  | null (first after : Option Place)
  | bool (first after : Option Place) (value : Bool)
  | number (first after : Option Place) (value : Except SyntaxError Number)
  | string (first after : Option Place) (value : Except SyntaxError String)
  | array (first : Option Place) (deep : Option SyntaxError) (items : Items)
  | object (first : Option Place) (deep : Option SyntaxError) (members : Entries)

inductive Items where
  | done (after : Option Place)
  | broken (e surplus : SyntaxError)
  | more (surplus : Option SyntaxError) (item : Node) (rest : Items)

inductive Entries where
  | done (after : Option Place)
  | broken (e : SyntaxError)
  | more (name : Except SyntaxError String) (after : Option Place) (value : Node) (rest : Entries)

end

def surplusAt (cur : Cursor) : SyntaxError :=
  match cur.rest with
  | [] => cur.peekFail .endInList
  | ',' :: rest =>
      let next := (cur.step ',' rest).skipBlanks
      match next.rest with
      | ']' :: _ => next.peekFail .trailingComma
      | _ => next.peekFail .trailingCharacters
  | _ => cur.peekFail .trailingCharacters

def depthLimit : Nat := 127

mutual

/-- Reads a value; the cursor behind it is missing when the text breaks off inside. -/
def nodeAt : Nat → Nat → Cursor → Node × Option Cursor
  | 0, _, cur => (.broken (cur.fail .endInValue), none)
  | fuel + 1, depth, cur =>
      let cur := cur.skipBlanks
      let first := some cur.place
      let deep := if depth < depthLimit then none else some (cur.peekFail .tooDeep)
      match cur.rest with
      | [] => (.broken (cur.peekFail .endInValue), none)
      | c :: rest =>
          let next := cur.step c rest
          match c with
          | 'n' =>
              match word next ['u', 'l', 'l'] with
              | .ok after => (.null first (some after.place), some after)
              | .error e => (.broken e, none)
          | 't' =>
              match word next ['r', 'u', 'e'] with
              | .ok after => (.bool first (some after.place) true, some after)
              | .error e => (.broken e, none)
          | 'f' =>
              match word next ['a', 'l', 's', 'e'] with
              | .ok after => (.bool first (some after.place) false, some after)
              | .error e => (.broken e, none)
          | '"' =>
              match stringBody (fuel + 1) next with
              | .ok (s, after) => (.string first (some after.place) s.read, some after)
              | .error e => (.broken e, none)
          | '[' =>
              let items := itemsAt fuel (depth + 1) true next
              (.array first deep items.1, items.2)
          | '\x7b' =>
              let entries := entriesAt fuel (depth + 1) true next
              (.object first deep entries.1, entries.2)
          | _ =>
              if c = '-' ∨ c.isDigit = true then
                let outcome :=
                  if c = '-' then numeral true 1 rest else numeral false 0 cur.rest
                match outcome with
                | .fault f length peek =>
                    let at_ := cur.advance (cur.rest.take length)
                    (.broken (if peek then at_.peekFail f else at_.fail f), none)
                | .read length value =>
                    let after := cur.advance (cur.rest.take length)
                    let number := match value with
                      | some n => .ok n
                      | none => .error (after.fail .outOfRange)
                    (.number first (some after.place) number, some after)
              else (.broken (cur.peekFail .valueExpected), none)

def itemsAt : Nat → Nat → Bool → Cursor → Items × Option Cursor
  | 0, _, _, cur => (.broken (cur.fail .endInList) (cur.fail .endInList), none)
  | fuel + 1, depth, isFirst, cur =>
      let cur := cur.skipBlanks
      let surplus := surplusAt cur
      match cur.rest with
      | [] => (.broken (cur.peekFail .endInList) surplus, none)
      | ']' :: rest =>
          let after := cur.step ']' rest
          (.done (some after.place), some after)
      | c :: rest =>
          let begun : Except SyntaxError Cursor :=
            if isFirst then .ok cur
            else if c = ',' then
              let next := (cur.step c rest).skipBlanks
              match next.rest with
              | [] => .error (next.peekFail .endInValue)
              | ']' :: _ => .error (next.peekFail .trailingComma)
              | _ => .ok next
            else .error (cur.peekFail .listEndExpected)
          match begun with
          | .error e => (.broken e surplus, none)
          | .ok next =>
              let item := nodeAt fuel depth next
              match item.2 with
              | none => (.more (some surplus) item.1 (.broken surplus surplus), none)
              | some after =>
                  let others := itemsAt fuel depth false after
                  (.more (some surplus) item.1 others.1, others.2)

def entriesAt : Nat → Nat → Bool → Cursor → Entries × Option Cursor
  | 0, _, _, cur => (.broken (cur.fail .endInObject), none)
  | fuel + 1, depth, isFirst, cur =>
      let cur := cur.skipBlanks
      match cur.rest with
      | [] => (.broken (cur.peekFail .endInObject), none)
      | '\x7d' :: rest =>
          let after := cur.step '\x7d' rest
          (.done (some after.place), some after)
      | c :: rest =>
          let begun : Except SyntaxError Cursor :=
            if isFirst then
              if c = '"' then .ok cur else .error (cur.peekFail .keyNotText)
            else if c = ',' then
              let next := (cur.step c rest).skipBlanks
              match next.rest with
              | [] => .error (next.peekFail .endInValue)
              | '"' :: _ => .ok next
              | '\x7d' :: _ => .error (next.peekFail .trailingComma)
              | _ => .error (next.peekFail .keyNotText)
            else .error (cur.peekFail .objectEndExpected)
          match begun with
          | .error e => (.broken e, none)
          | .ok quoted =>
              match stringBody (fuel + 1) (quoted.step '"' quoted.rest.tail) with
              | .error e => (.broken e, none)
              | .ok (s, behind) =>
                  let behind := behind.skipBlanks
                  let after := some behind.place
                  match behind.rest with
                  | ':' :: tail =>
                      let value := nodeAt fuel depth (behind.step ':' tail)
                      match value.2 with
                      | none => (.more s.read after value.1
                          (.broken (behind.fail .endInObject)), none)
                      | some next =>
                          let others := entriesAt fuel depth false next
                          (.more s.read after value.1 others.1, others.2)
                  | [] => (.more s.read after (.broken (behind.peekFail .endInObject))
                      (.broken (behind.peekFail .endInObject)), none)
                  | _ => (.more s.read after (.broken (behind.peekFail .colonExpected))
                      (.broken (behind.peekFail .colonExpected)), none)

end

/-- A whole text: its tree, and the fault of anything that stands behind the value. -/
structure Document where
  root : Node
  trailing : Option SyntaxError

def Document.ofChars (cs : List Char) : Document :=
  let result := nodeAt (2 * cs.length + 2) 0 (Cursor.start cs)
  let trailing := result.2.bind fun after =>
    let rest := after.skipBlanks
    if rest.rest.isEmpty then none else some (rest.peekFail .trailingCharacters)
  ⟨result.1, trailing⟩

namespace Items

def ofValues : List Value → Items
  | [] => .done none
  | first :: rest => .more none (.given first) (ofValues rest)

end Items

namespace Entries

def ofMembers : Members → Entries
  | [] => .done none
  | (name, value) :: rest => .more (.ok name) none (.given value) (ofMembers rest)

end Entries

def Node.opened : Node → Node
  | .given .null => .null none none
  | .given (.bool b) => .bool none none b
  | .given (.number n) => .number none none (.ok n)
  | .given (.string s) => .string none none (.ok s)
  | .given (.array items) => .array none none (Items.ofValues items)
  | .given (.object members) => .object none none (Entries.ofMembers members)
  | node => node

def located : Except SyntaxError α → Except ReadError α :=
  Except.mapError ReadError.ofSyntax

mutual

/-- The value of a tree: the first fault met in document order, if there is one. -/
def Node.value : Node → Except ReadError Value
  | .given value => .ok value
  | .broken e => .error (.ofSyntax e)
  | .null _ _ => .ok .null
  | .bool _ _ b => .ok (.bool b)
  | .number _ _ n => (located n).map .number
  | .string _ _ s => (located s).map .string
  | .array _ deep items =>
      match deep with
      | some e => .error (.ofSyntax e)
      | none => (items.values 0).map .array
  | .object _ deep members =>
      match deep with
      | some e => .error (.ofSyntax e)
      | none => (members.values).map fun pairs => .object (Members.ofList pairs)

def Items.values (index : Nat) : Items → Except ReadError (List Value)
  | .done _ => .ok []
  | .broken e _ => .error (.ofSyntax e)
  | .more _ item rest =>
      match item.value with
      | .error e => .error (e.under (.item index))
      | .ok first => (rest.values (index + 1)).map (first :: ·)

def Entries.values : Entries → Except ReadError (List (String × Value))
  | .done _ => .ok []
  | .broken e => .error (.ofSyntax e)
  | .more name _ value rest =>
      match name with
      | .error e => .error (.ofSyntax e)
      | .ok key =>
          match value.value with
          | .error e => .error (e.under (.member key))
          | .ok first => (rest.values).map ((key, first) :: ·)

end

mutual

/-- Passes over a value nobody wants: only faults of the text itself count. -/
def Node.skipped : Node → Except SyntaxError Unit
  | .given _ => .ok ()
  | .broken e => .error e
  | .null _ _ => .ok ()
  | .bool _ _ _ => .ok ()
  | .number _ _ _ => .ok ()
  | .string _ _ _ => .ok ()
  | .array _ _ items => items.skipped
  | .object _ _ members => members.skipped

def Items.skipped : Items → Except SyntaxError Unit
  | .done _ => .ok ()
  | .broken e _ => .error e
  | .more _ item rest =>
      match item.skipped with
      | .error e => .error e
      | .ok () => rest.skipped

def Entries.skipped : Entries → Except SyntaxError Unit
  | .done _ => .ok ()
  | .broken e => .error e
  | .more _ _ value rest =>
      match value.skipped with
      | .error e => .error e
      | .ok () => rest.skipped

end

def Document.read (read : Node → Except ReadError α) (document : Document) : Except ReadError α :=
  match read document.root, document.trailing with
  | .error e, _ => .error e
  | .ok _, some e => .error (.ofSyntax e)
  | .ok value, none => .ok value

def parse (cs : List Char) : Except ReadError Value := (Document.ofChars cs).read Node.value

end AccessGate.Json
