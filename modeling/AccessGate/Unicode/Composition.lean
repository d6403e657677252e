import AccessGate.Text.Blank
import AccessGate.Unicode.CompositionData
import AccessGate.Unicode.Property

/-!
Canonical composition of texts (Normalization Form C), on code points.
-/

namespace AccessGate.Unicode

def composites : List (Nat × Nat × Nat) :=
  (Text.pieces ';' (compositionGroups.flatMap String.toList)).flatMap fun group =>
    let split := Text.cut ':' group
    let second := (hexAhead split.1).1
    (Text.pieces ',' (split.2.getD [])).map fun pair =>
      let sides := Text.cut '=' pair
      ((hexAhead (sides.2.getD [])).1, (hexAhead sides.1).1, second)

def combiningClasses : List (Nat × Nat × Nat) :=
  (Text.pieces ';' (combiningRuns.flatMap String.toList)).map fun run =>
    match (Text.pieces ',' run).map fun piece => (hexAhead piece).1 with
    | [first, count, value] => (first, count, value)
    | _ => (0, 0, 0)

def combiningClass (n : Nat) : Nat :=
  match combiningClasses.find? fun run => run.1 ≤ n && n < run.1 + run.2.1 with
  | some run => run.2.2
  | none => 0

def syllableBase : Nat := 0xAC00

def isSyllable (n : Nat) : Bool := syllableBase ≤ n && n < syllableBase + 11172

/-- Takes a composite apart; `depth` bounds how many parts can be nested. -/
def decomposed : Nat → Nat → List Nat
  | 0, n => [n]
  | depth + 1, n =>
      if isSyllable n then
        let index := n - syllableBase
        let trail := index % 28
        [0x1100 + index / 588, 0x1161 + index % 588 / 28] ++
          (if trail = 0 then [] else [0x11A7 + trail])
      else
        let parts := (composites.find? (·.1 == n)).map fun entry =>
          decomposed depth entry.2.1 ++ [entry.2.2]
        parts.getD [n]

/-- Puts a mark behind those before it whose class is not higher. -/
def place (mark value : Nat) : List (Nat × Nat) → List (Nat × Nat)
  | [] => [(mark, value)]
  | (other, held) :: rest =>
      if value < held ∧ value ≠ 0 then (other, held) :: place mark value rest
      else (mark, value) :: (other, held) :: rest

def ordered (points : List Nat) : List (Nat × Nat) :=
  (points.foldl (fun done n => place n (combiningClass n) done) []).reverse

def pairOf (first second : Nat) : Option Nat :=
  if 0x1100 ≤ first ∧ first < 0x1113 ∧ 0x1161 ≤ second ∧ second < 0x1176 then
    some (syllableBase + ((first - 0x1100) * 21 + (second - 0x1161)) * 28)
  else if isSyllable first ∧ (first - syllableBase) % 28 = 0 ∧
      0x11A8 ≤ second ∧ second < 0x11C3 then
    some (first + (second - 0x11A7))
  else (composites.find? fun entry => entry.2.1 == first && entry.2.2 == second).map (·.1)

/-- Joins each mark to the last starter unless one of its class or higher stands between. -/
def joined : Option Nat → List Nat → Nat → List (Nat × Nat) → List Nat
  | starter, marks, _, [] => starter.toList ++ marks
  | none, marks, _, (n, value) :: rest =>
      if value = 0 then marks ++ joined (some n) [] 0 rest
      else joined none (marks ++ [n]) 0 rest
  | some starter, marks, last, (n, value) :: rest =>
      let free := marks.isEmpty || (last < value && value ≠ 0)
      match (if free then pairOf starter n else none) with
      | some whole => joined (some whole) marks last rest
      | none =>
          if value = 0 then starter :: marks ++ joined (some n) [] 0 rest
          else joined (some starter) (marks ++ [n]) value rest

def composed (points : List Nat) : List Nat :=
  joined none [] 0 (ordered (points.flatMap (decomposed 4)))

end AccessGate.Unicode
