import AccessGate.Text.Number

/-!
Binary floating-point numbers of 64 bits, held by their bits so that equality is decidable, and
their shortest decimal texts.

`shortest` gives the fewest significant digits that read back as the same number, and of those
the nearest.
-/

namespace AccessGate

structure Double where
  bits : UInt64
  deriving DecidableEq, Inhabited, Repr

namespace Double

open Text (natText intText)

def ofFloat (x : Float) : Double := ⟨x.toBits⟩

def toFloat (x : Double) : Float := Float.ofBits x.bits

def isNegative (x : Double) : Bool := Nat.pow 2 63 ≤ x.bits.toNat

def field (x : Double) : Nat := x.bits.toNat / Nat.pow 2 52 % Nat.pow 2 11

def fraction (x : Double) : Nat := x.bits.toNat % Nat.pow 2 52

def isFinite (x : Double) : Bool := x.field != 2047

/-- A finite magnitude is `significand * 2 ^ exponent`. -/
def significand (x : Double) : Nat := if x.field = 0 then x.fraction else x.fraction + Nat.pow 2 52

def exponent (x : Double) : Int := (max x.field 1 : Nat) - 1075

/-- A fraction of natural numbers equal to `m * 2 ^ q`. -/
def ratio (m : Nat) (q : Int) : Nat × Nat :=
  match q with
  | .ofNat k => (m * Nat.pow 2 k, 1)
  | .negSucc k => (m, Nat.pow 2 (k + 1))

def scale (r : Nat × Nat) (e : Int) : Nat × Nat :=
  match e with
  | .ofNat k => (r.1, r.2 * Nat.pow 10 k)
  | .negSucc k => (r.1 * Nat.pow 10 (k + 1), r.2)

/-- The number of digits before the point of a positive fraction, not positive when the digits
begin behind the point. -/
def magnitude (r : Nat × Nat) : Int :=
  if r.2 ≤ r.1 then ((natText (r.1 / r.2)).length : Int)
  else
    let guess := (natText (r.2 / r.1)).length
    let scaled := scale r (-(guess : Int))
    if scaled.2 ≤ scaled.1 then
      1 - (guess : Int) + ((natText (scaled.1 / scaled.2)).length - 1 : Nat)
    else -(guess : Int)

/-- The ends of the interval of reals that round to `m * 2 ^ q`. -/
def lowEnd (m : Nat) (q : Int) : Nat × Nat :=
  if m = Nat.pow 2 52 then ratio (4 * m - 1) (q - 2) else ratio (2 * m - 1) (q - 1)

def highEnd (m : Nat) (q : Int) : Nat × Nat := ratio (2 * m + 1) (q - 1)

def below (a b : Nat × Nat) (orEqual : Bool) : Bool :=
  a.1 * b.2 < b.1 * a.2 || (orEqual && a.1 * b.2 == b.1 * a.2)

/-- The multiple of the grid unit `10 ^ e` nearest to the number, if one rounds to it. -/
def onGrid (m : Nat) (q e : Int) : Option Nat :=
  let value := scale (ratio m q) e
  let floor := value.1 / value.2
  let inside (n : Nat) : Bool :=
    below (scale (lowEnd m q) e) (n, 1) (m % 2 == 0) &&
      below (n, 1) (scale (highEnd m q) e) (m % 2 == 0)
  let upperNearer := value.2 < 2 * (value.1 % value.2) ||
    (value.2 == 2 * (value.1 % value.2) && floor % 2 == 1)
  match inside floor, inside (floor + 1) with
  | true, true => some (if upperNearer then floor + 1 else floor)
  | true, false => some floor
  | false, true => some (floor + 1)
  | false, false => none

def firstGrid (m : Nat) (q : Int) (places : Int) : List Nat → Option (Nat × Int)
  | [] => none
  | n :: more =>
      match onGrid m q (places - n) with
      | some digits => some (digits, places - n)
      | none => firstGrid m q places more

def shortest (x : Double) : Nat × Int :=
  let m := x.significand
  let q := x.exponent
  let places := magnitude (ratio m q)
  (firstGrid m q places ((List.range 17).map (· + 1))).getD (0, 0)

def stripZeros : Nat → Nat × Int → Nat × Int
  | 0, d => d
  | fuel + 1, (digits, power) =>
      if digits ≠ 0 ∧ digits % 10 = 0 then stripZeros fuel (digits / 10, power + 1)
      else (digits, power)

def decimal (x : Double) : List Char × Int :=
  let d := stripZeros 17 (shortest x)
  (natText d.1, d.2)

def zeros (n : Nat) : List Char := List.replicate n '0'

def positional (digits : List Char) (power : Int) (whole : List Char) : List Char :=
  let places := (digits.length : Int) + power
  if 0 ≤ power then digits ++ zeros power.toNat ++ whole
  else if 0 < places then digits.take places.toNat ++ '.' :: digits.drop places.toNat
  else '0' :: '.' :: zeros (-places).toNat ++ digits

def signed (x : Double) (text : List Char) : List Char :=
  if x.isNegative then '-' :: text else text

/-- Written in full, however long; a whole number has no point. -/
def plainText (x : Double) : List Char :=
  if x.isFinite = false then
    if x.fraction = 0 then signed x "inf".toList else "NaN".toList
  else if x.significand = 0 then signed x ['0']
  else signed x (positional x.decimal.1 x.decimal.2 [])

/-- Written in full from `10 ^ -5` to `10 ^ 16`, otherwise with an exponent; a whole number
ends in a point and a zero. -/
def text (x : Double) : List Char :=
  if x.significand = 0 then signed x "0.0".toList
  else
    let digits := x.decimal.1
    let power := x.decimal.2
    let places := (digits.length : Int) + power
    if (0 ≤ power ∧ places ≤ 16) ∨ (-5 < places ∧ places ≤ 16) then
      signed x (positional digits power ['.', '0'])
    else
      let mantissa := if digits.length = 1 then digits else digits.take 1 ++ '.' :: digits.drop 1
      let mark := if places - 1 < 0 then ['e'] else ['e', '+']
      signed x (mantissa ++ mark ++ intText (places - 1))

end Double

end AccessGate
