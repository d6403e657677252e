/-!
Sets of characters as ranges of code points, in ascending order and apart from each other.
-/

namespace AccessGate.Unicode

/-- Inclusive ranges. -/
abbrev CodeSet := List (Nat × Nat)

namespace CodeSet

def last : Nat := 0x10FFFF

/-- Adds a range that begins no earlier than the ranges so far, which stand backwards. -/
def extend : List (Nat × Nat) → Nat × Nat → List (Nat × Nat)
  | [], range => [range]
  | (low, high) :: rest, range =>
      if range.1 ≤ high + 1 then (low, max high range.2) :: rest
      else range :: (low, high) :: rest

def ofRanges (ranges : List (Nat × Nat)) : CodeSet :=
  let sorted := ranges.mergeSort fun a b => a.1 ≤ b.1
  (sorted.foldl extend []).reverse

def ofChar (c : Char) : CodeSet := [(c.toNat, c.toNat)]

def everything : CodeSet := [(0, last)]

def isAscii (set : CodeSet) : Bool := set.all (·.2 < 0x80)

def union (a b : CodeSet) : CodeSet := ofRanges (a ++ b)

def gaps : Nat → CodeSet → CodeSet
  | start, [] => if start ≤ last then [(start, last)] else []
  | start, (low, high) :: rest =>
      if start < low then (start, low - 1) :: gaps (high + 1) rest else gaps (high + 1) rest

def complement (a : CodeSet) : CodeSet := gaps 0 a

def intersection (a b : CodeSet) : CodeSet := complement (union (complement a) (complement b))

def difference (a b : CodeSet) : CodeSet := intersection a (complement b)

def symmetricDifference (a b : CodeSet) : CodeSet := union (difference a b) (difference b a)

def contains (a : CodeSet) (n : Nat) : Bool := a.any fun range => range.1 ≤ n && n ≤ range.2

def searchWithin (ranges : Array (Nat × Nat)) (n : Nat) : Nat → Nat → Nat → Bool
  | 0, _, _ => false
  | fuel + 1, low, high =>
      if low < high then
        let middle := (low + high) / 2
        match ranges[middle]? with
        | none => false
        | some range =>
            if n < range.1 then searchWithin ranges n fuel low middle
            else if range.2 < n then searchWithin ranges n fuel (middle + 1) high
            else true
      else false

def search (ranges : Array (Nat × Nat)) (n : Nat) : Bool :=
  searchWithin ranges n (ranges.size + 1) 0 ranges.size

end CodeSet

end AccessGate.Unicode
