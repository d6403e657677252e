/-!
White space at the ends of a text. The characters are those with the Unicode property
White_Space; zero-width characters are not among them.
-/

namespace AccessGate.Text

/-- The property White_Space. -/
def isBlank (c : Char) : Bool :=
  let n := c.toNat
  (9 ≤ n && n ≤ 13) || n == 0x20 || n == 0x85 || n == 0xA0 || n == 0x1680 ||
    (0x2000 ≤ n && n ≤ 0x200A) || n == 0x2028 || n == 0x2029 || n == 0x202F ||
    n == 0x205F || n == 0x3000

def trimStart (cs : List Char) : List Char := cs.dropWhile isBlank

def trimEnd (cs : List Char) : List Char := (cs.reverse.dropWhile isBlank).reverse

def trim (cs : List Char) : List Char := trimEnd (trimStart cs)

def isBlankText (cs : List Char) : Bool := cs.all isBlank

def cut (mark : Char) : List Char → List Char × Option (List Char)
  | [] => ([], none)
  | c :: rest =>
      if c = mark then ([], some rest)
      else
        let next := cut mark rest
        (c :: next.1, next.2)

/-- The pieces between the marks, always one more than there are marks. -/
def pieces (mark : Char) : List Char → List (List Char)
  | [] => [[]]
  | c :: rest =>
      if c = mark then [] :: pieces mark rest
      else match pieces mark rest with
        | [] => [[c]]
        | first :: others => (c :: first) :: others

def lower (cs : List Char) : List Char := cs.map Char.toLower

def upper (cs : List Char) : List Char := cs.map Char.toUpper

def sameIgnoringCase (a b : List Char) : Bool := lower a == lower b

def dropEnd (mark : Char) (cs : List Char) : List Char :=
  (cs.reverse.dropWhile (· == mark)).reverse

def afterStart? : List Char → List Char → Option (List Char)
  | [], cs => some cs
  | _ :: _, [] => none
  | p :: ps, c :: cs => if p = c then afterStart? ps cs else none

theorem afterStart?_append (front rest : List Char) : afterStart? front (front ++ rest) = some rest := by
  induction front with
  | nil => rfl
  | cons c front ih => simpa [afterStart?] using ih

theorem cut_eq (mark : Char) (cs : List Char) :
    cs = (cut mark cs).1 ++ ((cut mark cs).2.map (mark :: ·)).getD [] := by
  induction cs with
  | nil => rfl
  | cons c rest ih =>
      by_cases same : c = mark
      · simp [cut, same]
      · simp only [cut, same, ↓reduceIte, List.cons_append, List.cons.injEq, true_and]
        exact ih

theorem not_mem_cut (mark : Char) (cs : List Char) : mark ∉ (cut mark cs).1 := by
  induction cs with
  | nil => simp [cut]
  | cons c rest ih =>
      by_cases same : c = mark
      · simp [cut, same]
      · simp [cut, same, ih, Ne.symm same]

end AccessGate.Text
