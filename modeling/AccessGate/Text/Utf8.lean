/-!
UTF-8: octets of a text, and texts of octets. Reading replaces each maximal ill-formed part by
one replacement character, or refuses the whole when asked to be strict.
-/

namespace AccessGate.Utf8

def encode (cs : List Char) : List UInt8 := cs.flatMap String.utf8EncodeChar

def size (cs : List Char) : Nat := cs.foldl (fun total c => total + c.utf8Size) 0

/-- What a leading octet asks for: how many octets follow, the range of the first of them, and
the bits that the leading octet holds itself. -/
def lead? (b : UInt8) : Option (Nat × UInt8 × UInt8 × Nat) :=
  if 0xC2 ≤ b ∧ b ≤ 0xDF then some (1, 0x80, 0xBF, b.toNat - 0xC0)
  else if b = 0xE0 then some (2, 0xA0, 0xBF, 0)
  else if b = 0xED then some (2, 0x80, 0x9F, 0xD)
  else if 0xE1 ≤ b ∧ b ≤ 0xEF then some (2, 0x80, 0xBF, b.toNat - 0xE0)
  else if b = 0xF0 then some (3, 0x90, 0xBF, 0)
  else if 0xF1 ≤ b ∧ b ≤ 0xF3 then some (3, 0x80, 0xBF, b.toNat - 0xF0)
  else if b = 0xF4 then some (3, 0x80, 0x8F, 4)
  else none

/-- Reads up to `need` continuation octets: how many were there, whether that was enough, and the
code point gathered so far. -/
def continuation : Nat → UInt8 → UInt8 → Nat → List UInt8 → Nat × Bool × Nat
  | 0, _, _, point, _ => (0, true, point)
  | _ + 1, _, _, point, [] => (0, false, point)
  | need + 1, low, high, point, b :: rest =>
      if low ≤ b ∧ b ≤ high then
        let next := continuation need 0x80 0xBF (point * 64 + (b.toNat - 0x80)) rest
        (next.1 + 1, next.2)
      else (0, false, point)

def read : List UInt8 → List (Option Char)
  | [] => []
  | b :: rest =>
      if b < 0x80 then some (Char.ofNat b.toNat) :: read rest
      else match lead? b with
        | none => none :: read rest
        | some (need, low, high, bits) =>
            let next := continuation need low high bits rest
            (if next.2.1 then some (Char.ofNat next.2.2) else none) :: read (rest.drop next.1)
termination_by octets => octets.length
decreasing_by
  all_goals simp only [List.length_cons, List.length_drop]
  all_goals omega

def decodeLossy (octets : List UInt8) : List Char :=
  (read octets).map (·.getD (Char.ofNat 0xFFFD))

def decode? (octets : List UInt8) : Option (List Char) := (read octets).mapM id

/-- Octets shown one character each, for those that are no text. -/
def latin (octets : List UInt8) : List Char := octets.map (fun b => Char.ofNat b.toNat)

end AccessGate.Utf8
