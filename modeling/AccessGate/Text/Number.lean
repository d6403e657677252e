/-!
Numerals: natural numbers written in decimal, and read back within a bound.
-/

namespace AccessGate.Text

def digitValue? (c : Char) : Option Nat :=
  if c.isDigit then some (c.toNat - '0'.toNat) else none

def hexValue? (c : Char) : Option Nat :=
  if c.isDigit then some (c.toNat - '0'.toNat)
  else if 'a' ≤ c ∧ c ≤ 'f' then some (c.toNat - 'a'.toNat + 10)
  else if 'A' ≤ c ∧ c ≤ 'F' then some (c.toNat - 'A'.toNat + 10)
  else none

def hexDigit (n : Nat) : Char :=
  if n < 10 then Char.ofNat ('0'.toNat + n) else Char.ofNat ('a'.toNat + (n - 10))

def upperHexDigit (n : Nat) : Char :=
  if n < 10 then Char.ofNat ('0'.toNat + n) else Char.ofNat ('A'.toNat + (n - 10))

def valueIn (base : Nat) (digits : List Nat) : Nat :=
  digits.foldl (fun total d => total * base + d) 0

def natural? (cs : List Char) : Option Nat :=
  if cs.isEmpty then none else (cs.mapM digitValue?).map (valueIn 10)

/-- A numeral of an unsigned type with the given largest value: one leading plus sign is
allowed, a numeral beyond the largest value is not. -/
def unsigned? (largest : Nat) (cs : List Char) : Option Nat :=
  let digits := match cs with
    | '+' :: rest => rest
    | _ => cs
  match natural? digits with
  | some n => if n ≤ largest then some n else none
  | none => none

def natText (n : Nat) : List Char := Nat.toDigits 10 n

def intText (i : Int) : List Char :=
  match i with
  | .ofNat n => natText n
  | .negSucc n => '-' :: natText (n + 1)

end AccessGate.Text
