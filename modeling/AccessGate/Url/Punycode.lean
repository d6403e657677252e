/-!
Punycode: code points beyond ASCII written with letters and digits. They are taken in ascending
order, each as the distance from the one before, in a numeral whose digits have weights that adapt
to the distances so far.
-/

namespace AccessGate.Url.Punycode

def digit (d : Nat) : Char :=
  if d < 26 then Char.ofNat ('a'.toNat + d) else Char.ofNat ('0'.toNat + (d - 26))

def digitValue? (c : Char) : Option Nat :=
  if 'a' ≤ c ∧ c ≤ 'z' then some (c.toNat - 'a'.toNat)
  else if 'A' ≤ c ∧ c ≤ 'Z' then some (c.toNat - 'A'.toNat)
  else if '0' ≤ c ∧ c ≤ '9' then some (c.toNat - '0'.toNat + 26)
  else none

/-- The least digit value that does not end a numeral, at a position. -/
def threshold (position bias : Nat) : Nat := min (max (position - bias) 1) 26

theorem one_le_threshold (position bias : Nat) : 1 ≤ threshold position bias := by
  unfold threshold; omega

def shrink (delta steps : Nat) : Nat × Nat :=
  if 455 < delta then shrink (delta / 35) (steps + 1) else (delta, steps)
termination_by delta
decreasing_by omega

def adapt (delta count : Nat) (isFirst : Bool) : Nat :=
  let halved := if isFirst then delta / 700 else delta / 2
  let (rest, steps) := shrink (halved + halved / count) 0
  36 * steps + 36 * rest / (rest + 38)

def numeral (q position bias : Nat) : List Char :=
  let t := threshold position bias
  if q < t then [digit q]
  else digit (t + (q - t) % (36 - t)) :: numeral ((q - t) / (36 - t)) (position + 36) bias
termination_by q
decreasing_by
  have low := one_le_threshold position bias
  have smaller : (q - threshold position bias) / (36 - threshold position bias) ≤
      q - threshold position bias := Nat.div_le_self _ _
  simp only [t] at *
  omega

structure Writer where
  delta : Nat
  bias : Nat
  handled : Nat
  isFirst : Bool
  output : List Char

/-- Meets one code point of the text while those equal to `n` are written. -/
def Writer.meet (n : Nat) (w : Writer) (c : Nat) : Writer :=
  if c < n then { w with delta := w.delta + 1 }
  else if c = n then
    ⟨0, adapt w.delta (w.handled + 1) w.isFirst, w.handled + 1, false,
      w.output ++ numeral w.delta 36 w.bias⟩
  else w

def writeAll (text : List Nat) : Nat → List Nat → Writer → Writer
  | _, [], w => w
  | n, m :: more, w =>
      let ahead := { w with delta := w.delta + (m - n) * (w.handled + 1) }
      let met := text.foldl (Writer.meet m) ahead
      writeAll text (m + 1) more { met with delta := met.delta + 1 }

def distinct : List Nat → List Nat
  | a :: b :: rest => if a = b then distinct (b :: rest) else a :: distinct (b :: rest)
  | few => few

def encode (text : List Nat) : List Char :=
  let basic := text.filter (· < 128)
  let others := distinct ((text.filter (128 ≤ ·)).mergeSort (· ≤ ·))
  let start := basic.map Char.ofNat ++ if basic.isEmpty then [] else ['-']
  (writeAll text 128 others ⟨0, 72, basic.length, true, start⟩).output

structure Reader where
  output : List Nat
  point : Nat
  /-- Where the next code point goes, before and with the numeral read so far. -/
  origin : Nat
  index : Nat
  bias : Nat
  weight : Nat
  position : Nat
  isFirst : Bool

def Reader.start (basic : List Nat) : Reader := ⟨basic, 128, 0, 0, 72, 1, 36, true⟩

def insertAt (value : Nat) : Nat → List Nat → List Nat
  | 0, list => value :: list
  | _ + 1, [] => [value]
  | n + 1, head :: rest => head :: insertAt value n rest

def Reader.step (r : Reader) (c : Char) : Option Reader :=
  match digitValue? c with
  | none => none
  | some d =>
      let index := r.index + d * r.weight
      let t := threshold r.position r.bias
      if Nat.pow 2 32 ≤ index then none
      else if t ≤ d then
        some { r with index := index, weight := r.weight * (36 - t), position := r.position + 36 }
      else
        let size := r.output.length + 1
        let point := r.point + index / size
        let place := index % size
        if 0x10FFFF < point ∨ (0xD800 ≤ point ∧ point ≤ 0xDFFF) then none
        else some ⟨insertAt point place r.output, point, place + 1, place + 1,
          adapt (index - r.origin) size r.isFirst, 1, 36, false⟩

def readAll : Reader → List Char → Option (List Nat)
  | r, [] => if r.weight = 1 ∧ r.position = 36 then some r.output else none
  | r, c :: rest => (r.step c).bind fun next => readAll next rest

def decode? (text : List Char) : Option (List Nat) :=
  let numerals := (text.reverse.takeWhile (· != '-')).reverse
  let basic := text.take (text.length - numerals.length - 1)
  if basic.all (·.toNat < 128) then readAll (.start (basic.map Char.toNat)) numerals else none

end AccessGate.Url.Punycode
