import AccessGate.Net.Address
import AccessGate.Text.Percent
import AccessGate.Url.DomainName

/-!
Hosts of URLs: a domain name, an address, or a text that has no structure.
-/

namespace AccessGate.Url

open Text (hexValue? valueIn digitValue? natText)

inductive UrlError where
  | noHost
  | badDomainName
  | badPort
  | badV4
  | badV6
  | badDomainCharacter
  | relative
  deriving DecidableEq, Repr

namespace UrlError

def message : UrlError → String
  | noHost => "empty host"
  | badDomainName => "invalid international domain name"
  | badPort => "invalid port number"
  | badV4 => "invalid IPv4 address"
  | badV6 => "invalid IPv6 address"
  | badDomainCharacter => "invalid domain character"
  | relative => "relative URL without a base"

end UrlError

/-- What a numeral in an address says. -/
inductive Numeral where
  | none
  | tooLarge
  | value (n : Nat)
  deriving DecidableEq, Repr

namespace V4

def inBase (base : Nat) (cs : List Char) : Numeral :=
  if cs.isEmpty then .value 0
  else match cs.mapM fun c => (hexValue? c).filter (· < base) with
    | some digits =>
        let n := valueIn base digits
        if n < Nat.pow 2 32 then .value n else .tooLarge
    | none => .none

/-- A numeral in decimal, octal behind a zero, or hexadecimal behind `0x`. -/
def numeral : List Char → Numeral
  | [] => .none
  | '0' :: 'x' :: rest => inBase 16 rest
  | '0' :: 'X' :: rest => inBase 16 rest
  | '0' :: c :: rest => inBase 8 (c :: rest)
  | cs => inBase 10 cs

def parts (cs : List Char) : List (List Char) :=
  let all := Text.pieces '.' cs
  if all.getLast? = some [] then all.dropLast else all

/-- Names whose last part is a number are addresses. -/
def isAddress (cs : List Char) : Bool :=
  match (parts cs).getLast? with
  | some last => (!last.isEmpty && last.all Char.isDigit) || numeral last != .none
  | none => false

def numbers? : List (List Char) → Option (List Nat)
  | [] => some []
  | part :: rest =>
      match numeral part with
      | .value n => (numbers? rest).map (n :: ·)
      | _ => none

/-- The last number fills all octets that the others leave. -/
def parse (cs : List Char) : Except UrlError Net.Octets4 :=
  let parts := parts cs
  if 4 < parts.length then .error .badV4
  else match numbers? parts with
    | none => .error .badV4
    | some ns =>
        match ns.getLast? with
        | none => .error .badV4
        | some last =>
            let heads := ns.dropLast
            if last < Nat.pow 256 (4 - heads.length) ∧ heads.all (· < 256) then
              let tail := Net.Address.octetsOf last
              .ok (heads ++ tail.drop heads.length)
            else .error .badV4

end V4

namespace V6

/-- Groups before and behind the mark that stands for zeros. -/
structure Draft where
  ahead : List Nat
  behind : Option (List Nat)

def Draft.size (d : Draft) : Nat :=
  d.ahead.length + match d.behind with
    | some groups => groups.length + 1
    | none => 0

def Draft.add (d : Draft) (groups : List Nat) : Draft :=
  match d.behind with
  | some behind => { d with behind := some (behind ++ groups) }
  | none => { d with ahead := d.ahead ++ groups }

def Draft.finish (d : Draft) : Option Net.Groups :=
  match d.behind with
  | some behind =>
      some (d.ahead ++ List.replicate (8 - d.ahead.length - behind.length) 0 ++ behind)
  | none => if d.ahead.length = 8 then some d.ahead else none

def octet? (cs : List Char) : Option Nat :=
  match Text.natural? cs with
  | some n => if n ≤ 255 ∧ (cs.head? ≠ some '0' ∨ cs.length = 1) then some n else none
  | none => none

def octets? (cs : List Char) : Option (List Nat) :=
  match (Text.pieces '.' cs).mapM octet? with
  | some [a, b, c, d] => some [a * 256 + b, c * 256 + d]
  | _ => none

def groups : Nat → Draft → List Char → Option Draft
  | _, d, [] => some d
  | 0, _, _ => none
  | fuel + 1, d, c :: cs =>
      if d.size = 8 then none
      else if c = ':' then
        match d.behind with
        | some _ => none
        | none => groups fuel { d with behind := some [] } cs
      else
        let digits := ((c :: cs).take 4).takeWhile fun c => (hexValue? c).isSome
        let value := valueIn 16 (digits.filterMap hexValue?)
        match (c :: cs).drop digits.length with
        | [] => some (d.add [value])
        | '.' :: _ =>
            if digits.isEmpty ∨ 6 < d.size then none
            else (octets? (c :: cs)).map d.add
        | ':' :: [] => none
        | ':' :: rest => groups fuel (d.add [value]) rest
        | _ => none

def parse (cs : List Char) : Except UrlError Net.Groups :=
  let start : Option (Draft × List Char) :=
    match cs with
    | ':' :: ':' :: rest => some (⟨[], some []⟩, rest)
    | ':' :: _ => none
    | _ :: _ :: _ => some (⟨[], none⟩, cs)
    | _ => none
  match start.bind fun s => (groups (cs.length + 1) s.1 s.2).bind Draft.finish with
  | some groups => .ok groups
  | none => .error .badV6

end V6

inductive Host where
  | domain (name : List Char)
  | address (value : Net.Address)
  deriving DecidableEq, Repr, Inhabited

namespace Host

def isControl (c : Char) : Bool := c.toNat < 0x20 || c.toNat == 0x7F

def isForbidden (c : Char) : Bool :=
  c.toNat == 0 || "\t\n\r #/:<>?@[\\]^|".toList.contains c

def bracketed (cs : List Char) : Except UrlError Host :=
  if cs.getLast? = some ']' then (V6.parse cs.dropLast).map fun groups => .address (.v6 groups)
  else .error .badV6

def parse (cs : List Char) : Except UrlError Host :=
  match cs with
  | '[' :: rest => bracketed rest
  | _ =>
      match (Utf8.decode? (Percent.decode cs)).bind DomainName.toAscii? with
      | none => .error .badDomainName
      | some [] => .error .noHost
      | some name =>
          if V4.isAddress name then (V4.parse name).map fun octets => .address (.v4 octets)
          else .ok (.domain name)

def parseOpaque (cs : List Char) : Except UrlError Host :=
  match cs with
  | '[' :: rest => bracketed rest
  | _ =>
      if cs.any isForbidden then .error .badDomainCharacter
      else .ok (.domain (Percent.encode isControl cs))

def render : Host → List Char
  | domain name => name
  | address (.v4 octets) => Net.Address.dotted octets
  | address (.v6 groups) => '[' :: Net.Address.compressed groups ++ [']']

end Host

end AccessGate.Url
