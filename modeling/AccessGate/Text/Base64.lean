/-!
Base64 in its two alphabets. The one for URLs is written without padding.
-/

namespace AccessGate.Base64

def digit (forUrl : Bool) (n : Nat) : Char :=
  if n < 26 then Char.ofNat ('A'.toNat + n)
  else if n < 52 then Char.ofNat ('a'.toNat + (n - 26))
  else if n < 62 then Char.ofNat ('0'.toNat + (n - 52))
  else if n = 62 then (if forUrl then '-' else '+')
  else if forUrl then '_' else '/'

def value? (forUrl : Bool) (c : Char) : Option Nat :=
  if 'A' ≤ c ∧ c ≤ 'Z' then some (c.toNat - 'A'.toNat)
  else if 'a' ≤ c ∧ c ≤ 'z' then some (c.toNat - 'a'.toNat + 26)
  else if '0' ≤ c ∧ c ≤ '9' then some (c.toNat - '0'.toNat + 52)
  else if c = (if forUrl then '-' else '+') then some 62
  else if c = (if forUrl then '_' else '/') then some 63
  else none

/-- The digits of some octets, six bits each; bits that are missing at the end are zero. -/
def digits (forUrl : Bool) : List UInt8 → List Char
  | [] => []
  | [a] =>
      let n := a.toNat * 16
      [digit forUrl (n / 64), digit forUrl (n % 64)]
  | [a, b] =>
      let n := (a.toNat * 256 + b.toNat) * 4
      [digit forUrl (n / 4096), digit forUrl (n / 64 % 64), digit forUrl (n % 64)]
  | a :: b :: c :: rest =>
      let n := (a.toNat * 256 + b.toNat) * 256 + c.toNat
      digit forUrl (n / 262144) :: digit forUrl (n / 4096 % 64) :: digit forUrl (n / 64 % 64) ::
        digit forUrl (n % 64) :: digits forUrl rest

def encodeUrl (octets : List UInt8) : List Char := digits true octets

def encode (octets : List UInt8) : List Char :=
  let text := digits false octets
  text ++ List.replicate ((4 - text.length % 4) % 4) '='

/-- Octets of digits. The bits beyond the last octet have to be zero. -/
def octets? : List Nat → Option (List UInt8)
  | [] => some []
  | [_] => none
  | [a, b] => if b % 16 = 0 then some [UInt8.ofNat (a * 4 + b / 16)] else none
  | [a, b, c] =>
      if c % 4 = 0 then
        some [UInt8.ofNat (a * 4 + b / 16), UInt8.ofNat (b % 16 * 16 + c / 4)]
      else none
  | a :: b :: c :: d :: rest =>
      (octets? rest).map fun more =>
        UInt8.ofNat (a * 4 + b / 16) :: UInt8.ofNat (b % 16 * 16 + c / 4) ::
          UInt8.ofNat (c % 4 * 64 + d) :: more

def decodeUrl? (cs : List Char) : Option (List UInt8) := (cs.mapM (value? true)).bind octets?

end AccessGate.Base64
