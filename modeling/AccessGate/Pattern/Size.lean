import AccessGate.Pattern.Syntax

/-!
How large the programs of a pattern get that read UTF-8: one that reads forwards and notes groups,
and one that reads backwards and notes none. A pattern is refused when either of them is too large.
-/

namespace AccessGate.Pattern

open Unicode (CodeSet)

/-! ## Characters as runs of octets -/

abbrev OctetRun := List (Nat × Nat)

/-- The runs for the numbers from `first` to `last`, written in a leading part and so many digits of
base 64; each run covers whole ranges. -/
def runsOf : Nat → Nat → Nat → List OctetRun
  | 0, first, last => [[(first, last)]]
  | digits + 1, first, last =>
      let unit := Nat.pow 64 (digits + 1)
      let low := first / unit
      let high := last / unit
      if low = high then (runsOf digits (first % unit) (last % unit)).map ((low, low) :: ·)
      else
        let startsWhole := first % unit = 0
        let endsWhole := last % unit = unit - 1
        let head := if startsWhole then [] else
          (runsOf digits (first % unit) (unit - 1)).map ((low, low) :: ·)
        let tail := if endsWhole then [] else
          (runsOf digits 0 (last % unit)).map ((high, high) :: ·)
        let start := if startsWhole then low else low + 1
        let stop := if endsWhole then high + 1 else high
        let whole : List OctetRun :=
          if start < stop then [(start, stop - 1) :: List.replicate (digits + 1) (0, 63)] else []
        head ++ whole ++ tail

/-- The code points of one length, with the mark of that length on their leading octet. -/
structure Stretch where
  first : Nat
  last : Nat
  digits : Nat
  mark : Nat

def stretches : List Stretch :=
  [⟨0, 0x7F, 0, 0⟩, ⟨0x80, 0x7FF, 1, 0xC0⟩, ⟨0x800, 0xD7FF, 2, 0xE0⟩, ⟨0xE000, 0xFFFF, 2, 0xE0⟩,
   ⟨0x10000, 0x10FFFF, 3, 0xF0⟩]

def marked (mark : Nat) : OctetRun → OctetRun
  | [] => []
  | (first, last) :: rest => (mark + first, mark + last) :: rest

def Stretch.runs (stretch : Stretch) (range : Nat × Nat) : List OctetRun :=
  let first := max stretch.first range.1
  let last := min stretch.last range.2
  if first ≤ last then (runsOf stretch.digits first last).map (marked stretch.mark) else []

def octetRuns (set : CodeSet) : List OctetRun :=
  set.flatMap fun range => stretches.flatMap fun stretch => stretch.runs range

/-! ## Sizes -/

def instructionSize : Nat := 32

def waySize : Nat := 4

def rangeSize : Nat := 8

def commonLength : OctetRun → OctetRun → Nat
  | a :: as, b :: bs => if a = b then commonLength as bs + 1 else 0
  | _, _ => 0

def beginnings : OctetRun → List OctetRun → Nat
  | _, [] => 0
  | before, run :: rest => run.length - commonLength before run + beginnings run rest

def characterSize (set : CodeSet) : Nat := beginnings [] (octetRuns set) * instructionSize

/-- A choice of characters. Backwards, runs share no more than where they end up. -/
def choiceSize (backwards : Bool) (set : CodeSet) : Nat :=
  let runs := octetRuns set
  if set.isAscii then 2 * instructionSize + rangeSize * set.length
  else if backwards then (2 + beginnings [] runs) * instructionSize + waySize * runs.length
  else 2 * instructionSize + (instructionSize + rangeSize) * runs.length

def setSize (backwards : Bool) (set : CodeSet) : Nat :=
  match set with
  | [(first, last)] => if first = last then characterSize set else choiceSize backwards set
  | _ => choiceSize backwards set

def Tree.isBranch : Tree → Bool
  | .branch _ _ => true
  | _ => false

def Tree.size (backwards : Bool) : Tree → Nat
  | .empty => instructionSize
  | .set ranges => setSize backwards ranges
  | .condition _ => instructionSize
  | .group _ body => body.size backwards + (if backwards then 0 else 2 * instructionSize)
  | .sequence first second => first.size backwards + second.size backwards
  | .branch first second =>
      first.size backwards + second.size backwards + waySize +
        (if second.isBranch then 0 else 2 * instructionSize + waySize)
  | .repeated body least most _ =>
      let size := body.size backwards
      let fork := instructionSize + 2 * waySize
      match most with
      | some n =>
          let needed := if least = 0 then instructionSize else size * least
          if n ≤ least then needed
          else if least = 0 ∧ n = 1 then size + fork + instructionSize
          else needed + instructionSize + (n - least) * (size + fork)
      | none =>
          if least = 0 ∧ body.isNullable then size + 2 * fork + instructionSize
          else size * max least 1 + fork

def frameSize (backwards : Bool) : Nat :=
  if backwards then instructionSize else 6 * instructionSize + 2 * waySize

def sizeLimit : Nat := 10 * 1024 * 1024

def Tree.isWithinLimit (tree : Tree) : Bool :=
  [false, true].all fun backwards => tree.size backwards + frameSize backwards ≤ sizeLimit

end AccessGate.Pattern
