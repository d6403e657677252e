import AccessGate.Unicode.Case
import AccessGate.Unicode.Property

/-!
Named classes of characters.
-/

namespace AccessGate.Pattern

open Unicode

def digitsAscii : CodeSet := [(0x30, 0x39)]

def blanksAscii : CodeSet := [(0x09, 0x0D), (0x20, 0x20)]

def wordAscii : CodeSet := [(0x30, 0x39), (0x41, 0x5A), (0x5F, 0x5F), (0x61, 0x7A)]

def letterClass? (unicode : Bool) (c : Char) : Option CodeSet :=
  match c with
  | 'd' => some (if unicode then decimalDigits else digitsAscii)
  | 's' => some (if unicode then blanks else blanksAscii)
  | 'w' => some (if unicode then wordCharacters else wordAscii)
  | _ => none

def namedClass? (name : String) : Option CodeSet :=
  match name with
  | "alnum" => some [(0x30, 0x39), (0x41, 0x5A), (0x61, 0x7A)]
  | "alpha" => some [(0x41, 0x5A), (0x61, 0x7A)]
  | "ascii" => some [(0, 0x7F)]
  | "blank" => some [(0x09, 0x09), (0x20, 0x20)]
  | "cntrl" => some [(0, 0x1F), (0x7F, 0x7F)]
  | "digit" => some digitsAscii
  | "graph" => some [(0x21, 0x7E)]
  | "lower" => some [(0x61, 0x7A)]
  | "print" => some [(0x20, 0x7E)]
  | "punct" => some [(0x21, 0x2F), (0x3A, 0x40), (0x5B, 0x60), (0x7B, 0x7E)]
  | "space" => some blanksAscii
  | "upper" => some [(0x41, 0x5A)]
  | "word" => some wordAscii
  | "xdigit" => some [(0x30, 0x39), (0x41, 0x46), (0x61, 0x66)]
  | _ => none

def asciiCaseClosure (set : CodeSet) : CodeSet :=
  let small := CodeSet.intersection set [(0x61, 0x7A)]
  let large := CodeSet.intersection set [(0x41, 0x5A)]
  .ofRanges (set ++ small.map (fun r => (r.1 - 32, r.2 - 32)) ++
    large.map (fun r => (r.1 + 32, r.2 + 32)))

def wordRanges : Array (Nat × Nat) := wordCharacters.toArray

def isWord (unicode : Bool) (c : Char) : Bool :=
  if c.toNat < 0x80 then c.isAlphanum || c == '_'
  else unicode && CodeSet.search wordRanges c.toNat

def letterRanges : Array (Nat × Nat) := (flag "Alphabetic").toArray

def numberRanges : Array (Nat × Nat) := (category ["Nd", "Nl", "No"]).toArray

def isLetter (c : Char) : Bool := CodeSet.search letterRanges c.toNat

def isNumber (c : Char) : Bool := CodeSet.search numberRanges c.toNat

end AccessGate.Pattern
