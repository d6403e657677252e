import AccessGate.Text.Blank
import AccessGate.Text.Number
import AccessGate.Text.Utf8

/-!
Percent-encoding, and the form encoding built on it. A set says which ASCII characters are
escaped; characters beyond ASCII always are.
-/

namespace AccessGate.Percent

open Text (hexValue? upperHexDigit)

def escape (b : UInt8) : List Char :=
  ['%', upperHexDigit (b.toNat / 16), upperHexDigit (b.toNat % 16)]

def encodeChar (escaped : Char → Bool) (c : Char) : List Char :=
  if c.toNat < 0x80 ∧ escaped c = false then [c]
  else (String.utf8EncodeChar c).flatMap escape

def encode (escaped : Char → Bool) (cs : List Char) : List Char :=
  cs.flatMap (encodeChar escaped)

/-- Octets of a text in which a percent sign with two hexadecimal digits stands for one octet;
any other percent sign stands for itself. -/
def decode : List Char → List UInt8
  | [] => []
  | '%' :: a :: b :: tail =>
      match hexValue? a, hexValue? b with
      | some x, some y => UInt8.ofNat (x * 16 + y) :: decode tail
      | _, _ => 0x25 :: decode (a :: b :: tail)
  | c :: rest => String.utf8EncodeChar c ++ decode rest

end AccessGate.Percent

namespace AccessGate.Form

open Text (cut pieces)

/-- A name or value of a form: plus is a space, escapes are UTF-8, ill-formed parts are
replaced. -/
def decodePart (cs : List Char) : List Char :=
  Utf8.decodeLossy (Percent.decode (cs.map fun c => if c = '+' then ' ' else c))

/-- The pairs of a query or form body, in order; empty pieces count for nothing. -/
def parse (cs : List Char) : List (List Char × List Char) :=
  ((pieces '&' cs).filter (!·.isEmpty)).map fun piece =>
    let split := cut '=' piece
    (decodePart split.1, decodePart (split.2.getD []))

def isPlain (c : Char) : Bool :=
  c.isAlphanum || c == '*' || c == '-' || c == '.' || c == '_'

def encodePart (cs : List Char) : List Char :=
  (Percent.encode (fun c => !isPlain c && c != ' ') cs).map fun c => if c = ' ' then '+' else c

def render (pairs : List (List Char × List Char)) : List Char :=
  ['&'].intercalate (pairs.map fun pair => encodePart pair.1 ++ '=' :: encodePart pair.2)

end AccessGate.Form
