import AccessGate.Pattern.CharacterClass
import AccessGate.Pattern.Syntax
import AccessGate.Text.Blank
import AccessGate.Text.Number

/-!
The parts of patterns that stand for one character or one position: literals, escapes and classes
in brackets.
-/

namespace AccessGate.Pattern

open Unicode
open Text (hexValue? valueIn)

inductive PatternError where
  | unclosedGroup
  | unopenedGroup
  | badGroup
  | badGroupName
  | badFlags
  | nothingToRepeat
  | badCount
  | badEscape
  | badClass
  | unknownProperty
  | outsideText
  | tooDeep
  | tooLarge
  deriving DecidableEq, Repr

structure Flags where
  ignoreCase : Bool
  manyLines : Bool
  dotTakesAll : Bool
  lazyFirst : Bool
  unicode : Bool
  pairLines : Bool
  freeSpacing : Bool
  deriving DecidableEq, Repr

def Flags.default : Flags := ⟨false, false, false, false, true, false, false⟩

/-- Blanks and comments, which free spacing passes over. -/
def skipFree (inComment : Bool) : List Char → List Char
  | [] => []
  | c :: rest =>
      if inComment then skipFree (c != '\n') rest
      else if Text.isBlank c then skipFree false rest
      else if c = '#' then skipFree true rest
      else c :: rest

def Flags.skip (flags : Flags) (cs : List Char) : List Char :=
  if flags.freeSpacing then skipFree false cs else cs

def Flags.fold (flags : Flags) (set : CodeSet) : CodeSet :=
  if flags.ignoreCase then
    if flags.unicode then caseClosure set else asciiCaseClosure set
  else set

/-- Outside Unicode a set must not reach beyond ASCII: the text is no sequence of octets. -/
def Flags.within (flags : Flags) (set : CodeSet) : Except PatternError CodeSet :=
  if flags.unicode || set.isAscii then .ok set else .error .outsideText

def Flags.finish (flags : Flags) (negated : Bool) (set : CodeSet) : Except PatternError CodeSet :=
  let folded := flags.fold set
  flags.within (if negated then CodeSet.complement folded else folded)

inductive Primitive where
  /-- A literal; `octet` when it was written as two hexadecimal digits. -/
  | literal (c : Char) (octet : Bool)
  | oneOf (set : CodeSet)
  | condition (c : Condition)
  | dot

def isMeta (c : Char) : Bool := "\\.+*?()|[]\x7b\x7d^$#&-~".toList.contains c

def isEscapable (c : Char) : Bool :=
  isMeta c || (c.toNat < 0x80 && !c.isAlphanum && c != '<' && c != '>')

def scalar? (n : Nat) : Option Char :=
  if n < 0xD800 ∨ (0xDFFF < n ∧ n ≤ 0x10FFFF) then some (Char.ofNat n) else none

def bracedHex (flags : Flags) : Nat → List Nat → List Char → Option (List Nat × List Char)
  | 0, _, _ => none
  | fuel + 1, digits, cs =>
      match flags.skip cs with
      | [] => none
      | '\x7d' :: rest => some (digits.reverse, rest)
      | c :: rest => (hexValue? c).bind fun d => bracedHex flags fuel (d :: digits) rest

def fixedHex (flags : Flags) : Nat → List Char → Option (List Nat × List Char)
  | 0, cs => some ([], cs)
  | n + 1, cs =>
      match flags.skip cs with
      | [] => none
      | c :: rest =>
          (hexValue? c).bind fun d => (fixedHex flags n rest).map fun more => (d :: more.1, more.2)

def hexLiteral (flags : Flags) (size : Nat) (cs : List Char) :
    Except PatternError (Primitive × List Char) :=
  let read := match flags.skip cs with
    | '\x7b' :: rest => (bracedHex flags (rest.length + 1) [] rest).map (·, false)
    | cs => (fixedHex flags size cs).map (·, size == 2)
  match read with
  | some ((digits, rest), octet) =>
      if digits.isEmpty then .error .badEscape
      else match scalar? (valueIn 16 digits) with
        | some c => .ok (.literal c octet, rest)
        | none => .error .badEscape
  | none => .error .badEscape

def braced (flags : Flags) : Nat → List Char → List Char → Option (List Char × List Char)
  | 0, _, _ => none
  | fuel + 1, name, cs =>
      match flags.skip cs with
      | [] => none
      | '\x7d' :: rest => some (name.reverse, rest)
      | c :: rest => braced flags fuel (c :: name) rest

/-- Cuts a property from its value; tells whether the value is one the character must not have. -/
def splitProperty (name : List Char) : Option (List Char × List Char × Bool) :=
  let unequal := (List.range name.length).find? fun i => (name.drop i).take 2 = ['!', '=']
  match unequal with
  | some i => some (name.take i, name.drop (i + 2), true)
  | none =>
      let mark := if name.contains ':' then ':' else '='
      match Text.cut mark name with
      | (property, some value) => some (property, value, false)
      | _ => none

def propertySet (negated : Bool) (name : List Char) : Except PatternError (CodeSet × Bool) :=
  let found := match splitProperty name with
    | some (property, value, unequal) =>
        (byValue? (String.ofList property) (String.ofList value)).map (·, negated != unequal)
    | none => (byName? (String.ofList name)).map (·, negated)
  match found with
  | some result => .ok result
  | none => .error .unknownProperty

def property (flags : Flags) (negated : Bool) (cs : List Char) :
    Except PatternError (Primitive × List Char) :=
  let named := match flags.skip cs with
    | [] => none
    | '\x7b' :: rest => braced flags (rest.length + 1) [] rest
    | '\\' :: _ => none
    | c :: rest => some ([c], rest)
  match named with
  | none => .error .badEscape
  | some (name, rest) =>
      if flags.unicode then
        (propertySet negated name).bind fun found =>
          (flags.finish found.2 found.1).map fun set => (.oneOf set, rest)
      else .error .outsideText

def isEdgeChar (c : Char) : Bool := c.isAlpha || c == '-'

/-- The name of a word boundary in braces; without one the brace belongs to what follows. -/
def wordEdge (flags : Flags) (cs : List Char) : Except PatternError (Condition × List Char) :=
  match cs with
  | '\x7b' :: rest =>
      match flags.skip rest with
      | [] => .error .badEscape
      | c :: more =>
          if isEdgeChar c then
            match braced flags (more.length + 2) [] (c :: more) with
            | none => .error .badEscape
            | some (name, rest) =>
                match String.ofList name with
                | "start" => .ok (.wordStart flags.unicode, rest)
                | "end" => .ok (.wordEnd flags.unicode, rest)
                | "start-half" => .ok (.noWordBefore flags.unicode, rest)
                | "end-half" => .ok (.noWordBehind flags.unicode, rest)
                | _ => .error .badEscape
          else .ok (.wordEdge flags.unicode, cs)
  | _ => .ok (.wordEdge flags.unicode, cs)

def escape (flags : Flags) (cs : List Char) : Except PatternError (Primitive × List Char) :=
  match cs with
  | [] => .error .badEscape
  | c :: rest =>
      match c with
      | 'x' => hexLiteral flags 2 rest
      | 'u' => hexLiteral flags 4 rest
      | 'U' => hexLiteral flags 8 rest
      | 'p' => property flags false rest
      | 'P' => property flags true rest
      | 'a' => .ok (.literal (Char.ofNat 7) false, rest)
      | 'f' => .ok (.literal (Char.ofNat 12) false, rest)
      | 't' => .ok (.literal '\t' false, rest)
      | 'n' => .ok (.literal '\n' false, rest)
      | 'r' => .ok (.literal '\r' false, rest)
      | 'v' => .ok (.literal (Char.ofNat 11) false, rest)
      | 'A' => .ok (.condition .textStart, rest)
      | 'z' => .ok (.condition .textEnd, rest)
      | 'b' => (wordEdge flags rest).map fun found => (.condition found.1, found.2)
      | 'B' => .ok (.condition (.noWordEdge flags.unicode), rest)
      | '<' => .ok (.condition (.wordStart flags.unicode), rest)
      | '>' => .ok (.condition (.wordEnd flags.unicode), rest)
      | _ =>
          match letterClass? flags.unicode c.toLower with
          | some set =>
              (flags.within (if c.isUpper then CodeSet.complement set else set)).map
                fun set => (.oneOf set, rest)
          | none =>
              if isEscapable c then .ok (.literal c false, rest) else .error .badEscape

/-! ## Classes in brackets -/

inductive SetOperator where
  | intersection
  | difference
  | symmetricDifference

/-- The items so far and what stands before them. -/
structure ClassDraft where
  before : Option (SetOperator × CodeSet)
  items : CodeSet
  count : Nat
  depth : Nat

def ClassDraft.start : ClassDraft := ⟨none, [], 0, 0⟩

def ClassDraft.add (d : ClassDraft) (set : CodeSet) (depth : Nat) : ClassDraft :=
  { d with items := d.items ++ set, count := d.count + 1, depth := max d.depth depth }

def ClassDraft.value (flags : Flags) (d : ClassDraft) : CodeSet :=
  let items := CodeSet.ofRanges d.items
  match d.before with
  | none => items
  | some (operator, left) =>
      let left := flags.fold left
      let right := flags.fold items
      match operator with
      | .intersection => .intersection left right
      | .difference => .difference left right
      | .symmetricDifference => .symmetricDifference left right

def ClassDraft.operate (flags : Flags) (d : ClassDraft) (operator : SetOperator) : ClassDraft :=
  { d with before := some (operator, d.value flags), items := [], count := 2 }

def classItem (flags : Flags) (cs : List Char) : Except PatternError (Primitive × List Char) :=
  match cs with
  | [] => .error .badClass
  | '\\' :: rest => escape flags rest
  | c :: rest => .ok (.literal c false, rest)

def itemSet (flags : Flags) : Primitive → Except PatternError CodeSet
  | .literal c _ => flags.within (.ofChar c)
  | .oneOf set => .ok set
  | .condition _ => .error .badClass
  | .dot => .error .badClass

def classRange (flags : Flags) (cs : List Char) : Except PatternError (CodeSet × List Char) :=
  match classItem flags cs with
  | .error e => .error e
  | .ok (first, rest) =>
      let rest := flags.skip rest
      let single := (itemSet flags first).map (·, rest)
      match rest with
      | [] => .error .badClass
      | '-' :: more =>
          match flags.skip more with
          | [] => .error .badClass
          | ']' :: _ => single
          | '-' :: _ => single
          | behind =>
              match classItem flags behind with
              | .error e => .error e
              | .ok (second, rest) =>
                  match first, second with
                  | .literal a _, .literal b _ =>
                      if a.toNat ≤ b.toNat then
                        (flags.within [(a.toNat, b.toNat)]).map (·, rest)
                      else .error .badClass
                  | _, _ => .error .badClass
      | _ => single

def asciiClass? (flags : Flags) (cs : List Char) : Option (CodeSet × List Char) :=
  match cs with
  | ':' :: rest =>
      let negated := rest.head? == some '^'
      let rest := if negated then rest.tail else rest
      let name := rest.takeWhile (· != ':')
      match rest.drop name.length, namedClass? (String.ofList name) with
      | ':' :: ']' :: behind, some set =>
          let folded := flags.fold set
          some (if negated then CodeSet.complement folded else folded, behind)
      | _, _ => none
  | _ => none

/-- Hyphens at the start of a class stand for themselves, and so does a closing bracket. -/
def classStart (flags : Flags) (cs : List Char) : ClassDraft × List Char :=
  let hyphens := cs.takeWhile fun c => c == '-' || (flags.freeSpacing && Text.isBlank c)
  let rest := flags.skip (cs.drop hyphens.length)
  let draft := if hyphens.contains '-' then ClassDraft.start.add (.ofChar '-') 0 else .start
  match rest with
  | ']' :: behind =>
      if draft.count = 0 then (draft.add (.ofChar ']') 0, behind) else (draft, rest)
  | _ => (draft, rest)

def nestLimit : Nat := 250

/-- Reads a class from its first item on; gives its set, how deep it is and the rest. -/
def classBody (flags : Flags) (negated : Bool) :
    Nat → Nat → ClassDraft → List Char → Except PatternError (CodeSet × Nat × List Char)
  | 0, _, _, _ => .error .badClass
  | fuel + 1, level, draft, cs =>
      if nestLimit < level then .error .tooDeep
      else match flags.skip cs with
        | [] => .error .badClass
        | ']' :: rest =>
            let deep := draft.depth + (if draft.count ≤ 1 then 1 else 2)
            (flags.finish negated (draft.value flags)).map (·, deep, rest)
        | '[' :: rest =>
            match asciiClass? flags rest with
            | some (set, behind) => classBody flags negated fuel level (draft.add set 0) behind
            | none =>
                let opened := flags.skip rest
                let inverse := opened.head? == some '^'
                let (start, behind) :=
                  classStart flags (flags.skip (if inverse then opened.tail else opened))
                match classBody flags inverse fuel (level + 1) start behind with
                | .error e => .error e
                | .ok (set, deep, behind) =>
                    classBody flags negated fuel level (draft.add set deep) behind
        | '&' :: '&' :: rest =>
            classBody flags negated fuel level (draft.operate flags .intersection) rest
        | '-' :: '-' :: rest =>
            classBody flags negated fuel level (draft.operate flags .difference) rest
        | '~' :: '~' :: rest =>
            classBody flags negated fuel level (draft.operate flags .symmetricDifference) rest
        | cs =>
            match classRange flags cs with
            | .error e => .error e
            | .ok (set, rest) => classBody flags negated fuel level (draft.add set 0) rest

def bracketed (flags : Flags) (cs : List Char) : Except PatternError (CodeSet × Nat × List Char) :=
  let opened := flags.skip cs
  let negated := opened.head? == some '^'
  let (start, rest) := classStart flags (flags.skip (if negated then opened.tail else opened))
  classBody flags negated (cs.length + 2) 1 start rest

end AccessGate.Pattern
