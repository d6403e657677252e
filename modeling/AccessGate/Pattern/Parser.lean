import AccessGate.Pattern.Scanner
import AccessGate.Pattern.Size

/-!
Reading patterns. Flags hold from where they are set to the end of the group they are set in.
-/

namespace AccessGate.Pattern

open Unicode
open Text (natText digitValue? valueIn)

/-- A tree and how deep it is nested as written. -/
structure Part where
  tree : Tree
  depth : Nat
  deriving Inhabited

structure Cursor where
  rest : List Char
  flags : Flags
  nextGroup : Nat
  names : List (List Char)

/-- What a sequence has so far: parts, and settings of flags, which nothing can repeat. -/
inductive Item where
  | part (p : Part)
  | setting

def itemTrees (items : List Item) : List Tree :=
  items.filterMap fun item => match item with
    | .part p => some p.tree
    | .setting => none

def itemDepth (items : List Item) : Nat :=
  items.foldl (fun most item => match item with
    | .part p => max most p.depth
    | .setting => most) 0

def sequencePart (items : List Item) : Part :=
  ⟨.ofSequence (itemTrees items.reverse), itemDepth items + (if items.length ≤ 1 then 0 else 1)⟩

def branchPart (branches : List Part) : Part :=
  match branches with
  | [only] => only
  | _ =>
      ⟨.ofBranches (branches.reverse.map (·.tree)),
        branches.foldl (fun most p => max most p.depth) 0 + 1⟩

def literalSet (flags : Flags) (c : Char) (octet : Bool) : Except PatternError CodeSet :=
  if flags.unicode then .ok (flags.fold (.ofChar c))
  else if octet && 0x7F < c.toNat then .error .outsideText
  else if 0x7F < c.toNat then .ok (.ofChar c)
  else .ok (flags.fold (.ofChar c))

def dotSet (flags : Flags) : Except PatternError CodeSet :=
  if flags.unicode = false then .error .outsideText
  else if flags.dotTakesAll then .ok .everything
  else if flags.pairLines then .ok (CodeSet.complement [(10, 10), (13, 13)])
  else .ok (CodeSet.complement [(10, 10)])

def primitiveTree (flags : Flags) : Primitive → Except PatternError Tree
  | .literal c octet => (literalSet flags c octet).map .set
  | .oneOf set => .ok (.set set)
  | .condition c => .ok (.condition c)
  | .dot => (dotSet flags).map .set

def startCondition (flags : Flags) : Condition :=
  if flags.manyLines then (if flags.pairLines then .pairLineStart else .lineStart) else .textStart

def endCondition (flags : Flags) : Condition :=
  if flags.manyLines then (if flags.pairLines then .pairLineEnd else .lineEnd) else .textEnd

/-- Repeats a tree. What takes no character is repeated at most once. -/
def repeatTree (body : Tree) (least : Nat) (most : Option Nat) (greedy : Bool) : Tree :=
  let (least, most) :=
    if body.isBlank then (min least 1, some (min (most.getD 1) 1)) else (least, most)
  if most = some 0 then .empty
  else if least = 1 ∧ most = some 1 then body
  else .repeated body least most greedy

def repeatLast (flags : Flags) (least : Nat) (most : Option Nat) (lazy : Bool)
    (items : List Item) : Except PatternError (List Item) :=
  match items with
  | .part p :: rest =>
      .ok (.part ⟨repeatTree p.tree least most (lazy == flags.lazyFirst), p.depth + 1⟩ :: rest)
  | _ => .error .nothingToRepeat

def takeLazy (cs : List Char) : Bool × List Char :=
  match cs with
  | '?' :: rest => (true, rest)
  | _ => (false, cs)

def countDigits (flags : Flags) : Nat → List Nat → List Char → List Nat × List Char
  | 0, digits, cs => (digits.reverse, cs)
  | fuel + 1, digits, cs =>
      match cs with
      | c :: rest =>
          match digitValue? c with
          | some d => countDigits flags fuel (d :: digits) (flags.skip rest)
          | none => (digits.reverse, cs)
      | [] => (digits.reverse, [])

/-- A count with blanks around it; nothing when there are no digits. -/
def count (flags : Flags) (cs : List Char) : Except PatternError (Option Nat × List Char) :=
  let start := cs.dropWhile Text.isBlank
  let (digits, rest) := countDigits flags (start.length + 1) [] start
  let rest := flags.skip (rest.dropWhile Text.isBlank)
  let value := valueIn 10 digits
  if digits.isEmpty then .ok (none, rest)
  else if value < Nat.pow 2 32 then .ok (some value, rest)
  else .error .badCount

def bounds (flags : Flags) (cs : List Char) :
    Except PatternError (Nat × Option Nat × List Char) :=
  match count flags (flags.skip cs) with
  | .error e => .error e
  | .ok (least, rest) =>
      match rest, least with
      | '\x7d' :: rest, some n => .ok (n, some n, rest)
      | ',' :: rest, some n =>
          let rest := flags.skip rest
          match rest with
          | '\x7d' :: rest => .ok (n, none, rest)
          | _ =>
              match count flags rest with
              | .ok (some most, '\x7d' :: rest) =>
                  if n ≤ most then .ok (n, some most, rest) else .error .badCount
              | _ => .error .badCount
      | _, _ => .error .badCount

def isNameChar (isFirst : Bool) (c : Char) : Bool :=
  c == '_' || isLetter c || (!isFirst && (isNumber c || c == '.' || c == '[' || c == ']'))

def groupName (cs : List Char) : Except PatternError (List Char × List Char) :=
  let name := cs.takeWhile (· != '>')
  match name, cs.drop name.length with
  | first :: more, '>' :: rest =>
      if isNameChar true first && more.all (isNameChar false) then .ok (name, rest)
      else .error .badGroupName
  | _, _ => .error .badGroupName

def Flags.set (flags : Flags) (c : Char) (on : Bool) : Option Flags :=
  match c with
  | 'i' => some { flags with ignoreCase := on }
  | 'm' => some { flags with manyLines := on }
  | 's' => some { flags with dotTakesAll := on }
  | 'U' => some { flags with lazyFirst := on }
  | 'u' => some { flags with unicode := on }
  | 'R' => some { flags with pairLines := on }
  | 'x' => some { flags with freeSpacing := on }
  | _ => none

/-- Reads flags up to a colon or a closing parenthesis, and tells which of them it was. No flag
may be given twice, and a minus has to stand before one. -/
def settings (flags : Flags) (seen : List Char) (on : Bool) :
    List Char → Except PatternError (Flags × Char × List Char)
  | [] => .error .badFlags
  | c :: rest =>
      if c = ':' ∨ c = ')' then
        if seen.head? = some '-' then .error .badFlags
        else if c = ')' ∧ seen.isEmpty then .error .nothingToRepeat
        else .ok (flags, c, rest)
      else if seen.contains c then .error .badFlags
      else if c = '-' then settings flags (c :: seen) false rest
      else match flags.set c on with
        | some flags => settings flags (c :: seen) on rest
        | none => .error .badFlags

inductive Opening where
  | capture (cursor : Cursor)
  | plain (flags : Flags) (rest : List Char)
  | setting (flags : Flags) (rest : List Char)

def openCapture (cursor : Cursor) (rest : List Char) : Opening :=
  .capture { cursor with rest := rest, nextGroup := cursor.nextGroup + 1 }

def openNamed (cursor : Cursor) (cs : List Char) : Except PatternError Opening :=
  match groupName cs with
  | .error e => .error e
  | .ok (name, rest) =>
      if cursor.names.contains name then .error .badGroupName
      else .ok (openCapture { cursor with names := name :: cursor.names } rest)

def opening (cursor : Cursor) (cs : List Char) : Except PatternError Opening :=
  match cs with
  | '?' :: '=' :: _ => .error .badGroup
  | '?' :: '!' :: _ => .error .badGroup
  | '?' :: '<' :: '=' :: _ => .error .badGroup
  | '?' :: '<' :: '!' :: _ => .error .badGroup
  | '?' :: 'P' :: '<' :: rest => openNamed cursor rest
  | '?' :: '<' :: rest => openNamed cursor rest
  | '?' :: rest =>
      match settings cursor.flags [] true rest with
      | .error e => .error e
      | .ok (flags, ')', rest) => .ok (.setting flags rest)
      | .ok (flags, _, rest) => .ok (.plain flags rest)
  | _ => .ok (openCapture cursor cs)

/-- Reads branches up to a closing parenthesis or the end of the pattern. -/
def branches : Nat → Nat → List Part → List Item → Cursor → Except PatternError (Part × Cursor)
  | 0, _, _, _, _ => .error .tooDeep
  | fuel + 1, level, done, items, cursor =>
      let flags := cursor.flags
      let continueWith := fun (item : Item) (rest : List Char) =>
        branches fuel level done (item :: items) { cursor with rest := rest }
      let repeatWith := fun (least : Nat) (most : Option Nat) (rest : List Char) =>
        let (lazy, rest) := takeLazy rest
        match repeatLast flags least most lazy items with
        | .error e => .error e
        | .ok items => branches fuel level done items { cursor with rest := rest }
      let primitive := fun (found : Except PatternError (Primitive × List Char)) =>
        match found with
        | .error e => .error e
        | .ok (p, rest) =>
            match primitiveTree flags p with
            | .error e => .error e
            | .ok tree => continueWith (.part ⟨tree, 0⟩) rest
      match flags.skip cursor.rest with
      | [] => .ok (branchPart (sequencePart items :: done), { cursor with rest := [] })
      | ')' :: rest =>
          .ok (branchPart (sequencePart items :: done), { cursor with rest := ')' :: rest })
      | '|' :: rest =>
          branches fuel level (sequencePart items :: done) [] { cursor with rest := rest }
      | '(' :: rest =>
          if nestLimit ≤ level then .error .tooDeep
          else match opening cursor (flags.skip rest) with
            | .error e => .error e
            | .ok (.setting flags rest) =>
                branches fuel level done (.setting :: items)
                  { cursor with rest := rest, flags := flags }
            | .ok (.plain inner rest) =>
                let within := { cursor with rest := rest, flags := inner }
                match branches fuel (level + 1) [] [] within with
                | .error e => .error e
                | .ok (body, behind) =>
                    match behind.rest with
                    | ')' :: rest =>
                        branches fuel level done (.part ⟨body.tree, body.depth + 1⟩ :: items)
                          { behind with rest := rest, flags := flags }
                    | _ => .error .unclosedGroup
            | .ok (.capture inner) =>
                match branches fuel (level + 1) [] [] inner with
                | .error e => .error e
                | .ok (body, behind) =>
                    match behind.rest with
                    | ')' :: rest =>
                        let tree := .group cursor.nextGroup body.tree
                        branches fuel level done (.part ⟨tree, body.depth + 1⟩ :: items)
                          { behind with rest := rest, flags := flags }
                    | _ => .error .unclosedGroup
      | '[' :: rest =>
          match bracketed flags rest with
          | .error e => .error e
          | .ok (set, depth, rest) => continueWith (.part ⟨.set set, depth⟩) rest
      | '?' :: rest => repeatWith 0 (some 1) rest
      | '*' :: rest => repeatWith 0 none rest
      | '+' :: rest => repeatWith 1 none rest
      | '\x7b' :: rest =>
          match items with
          | .part _ :: _ =>
              match bounds flags rest with
              | .error e => .error e
              | .ok (least, most, rest) => repeatWith least most (flags.skip rest)
          | _ => .error .nothingToRepeat
      | '\\' :: rest => primitive (escape flags rest)
      | '.' :: rest => primitive (.ok (.dot, rest))
      | '^' :: rest => primitive (.ok (.condition (startCondition flags), rest))
      | '$' :: rest => primitive (.ok (.condition (endCondition flags), rest))
      | c :: rest => primitive (.ok (.literal c false, rest))

/-- A pattern and the number of its groups, the whole match included. -/
def parse (cs : List Char) : Except PatternError (Tree × Nat) :=
  match branches (2 * cs.length + 2) 0 [] [] ⟨cs, .default, 1, []⟩ with
  | .error e => .error e
  | .ok (part, cursor) =>
      if cursor.rest.isEmpty = false then .error .unopenedGroup
      else if nestLimit < part.depth then .error .tooDeep
      else if part.tree.isWithinLimit = false then .error .tooLarge
      else .ok (part.tree, cursor.nextGroup)

end AccessGate.Pattern
