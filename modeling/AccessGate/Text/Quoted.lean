import AccessGate.Text.Number
import AccessGate.Unicode.Property

/-!
Texts shown inside a message: in double quotes, with escapes for what would not be seen there.
-/

namespace AccessGate.Text

open Unicode

def invisible : Array (Nat × Nat) :=
  (category ["Cc", "Cf", "Cs", "Co", "Cn", "Zl", "Zp", "Zs"]).toArray

def extending : Array (Nat × Nat) := (flag "Grapheme_Extend").toArray

def shows (c : Char) : Bool :=
  if c.toNat < 0x7F then 0x20 ≤ c.toNat
  else !CodeSet.search invisible c.toNat && !CodeSet.search extending c.toNat

def escapedChar (c : Char) : List Char :=
  if c = '"' ∨ c = '\\' then ['\\', c]
  else if c = '\n' then ['\\', 'n']
  else if c = '\r' then ['\\', 'r']
  else if c = '\t' then ['\\', 't']
  else if c.toNat = 0 then ['\\', '0']
  else if shows c then [c]
  else ['\\', 'u', '\x7b'] ++ Nat.toDigits 16 c.toNat ++ ['\x7d']

def quoted (cs : List Char) : List Char := '"' :: cs.flatMap escapedChar ++ ['"']

end AccessGate.Text
