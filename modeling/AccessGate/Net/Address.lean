import AccessGate.Text.Number
import AccessGate.Text.Blank

/-!
Internet addresses: four octets or eight groups of sixteen bits, and how they are written. The
longest run of two or more zero groups is left out, the first one among equals.
-/

namespace AccessGate.Net

open Text (natText digitValue? hexValue? valueIn)

abbrev Octets4 := List Nat

abbrev Groups := List Nat

inductive Address where
  | v4 (octets : Octets4)
  | v6 (groups : Groups)
  deriving DecidableEq, Repr, Inhabited

namespace Address

def dotted (octets : Octets4) : List Char := ['.'].intercalate (octets.map natText)

def octetsOf (n : Nat) : Octets4 :=
  [n / 0x1000000, n / 0x10000 % 256, n / 0x100 % 256, n % 256]

def zerosAhead : List Nat → Nat
  | 0 :: rest => zerosAhead rest + 1
  | _ => 0

def longestZeros (index : Nat) : List Nat → Nat × Nat
  | [] => (0, 0)
  | group :: rest =>
      let here := zerosAhead (group :: rest)
      let later := longestZeros (index + 1) rest
      if 0 < here ∧ later.2 ≤ here then (index, here) else later

def colons (groups : List Nat) : List Char := [':'].intercalate (groups.map (Nat.toDigits 16))

def compressed (groups : Groups) : List Char :=
  let run := longestZeros 0 groups
  if 1 < run.2 then
    colons (groups.take run.1) ++ "::".toList ++ colons (groups.drop (run.1 + run.2))
  else colons groups

/-- An address whose last two groups stand for four octets is written with them. -/
def render : Address → List Char
  | v4 octets => dotted octets
  | v6 [0, 0, 0, 0, 0, 0xFFFF, a, b] =>
      "::ffff:".toList ++ dotted [a / 256, a % 256, b / 256, b % 256]
  | v6 groups => compressed groups

end Address

abbrev Take (α : Type) := List Char → Option (α × List Char)

def takeNumber (base most largest : Nat) (leadingZero : Bool) : Take Nat := fun cs =>
  let digit? := fun c => (hexValue? c).filter (· < base)
  let digits := cs.takeWhile fun c => (digit? c).isSome
  let value := valueIn base (digits.filterMap digit?)
  if digits.isEmpty || most < digits.length || largest < value ||
      (!leadingZero && 1 < digits.length && digits.head? == some '0') then none
  else some (value, cs.drop digits.length)

def takeChar (c : Char) : Take Unit
  | [] => none
  | d :: rest => if d = c then some ((), rest) else none

/-- Something that stands behind a mark unless it is the first. -/
def takeBehind (mark : Char) (isFirst : Bool) (take : Take α) : Take α := fun cs =>
  if isFirst then take cs else (takeChar mark cs).bind fun next => take next.2

def takeOctets (isFirst : Bool) : Nat → Take Octets4
  | 0 => fun cs => some ([], cs)
  | n + 1 => fun cs =>
      match takeBehind '.' isFirst (takeNumber 10 3 255 false) cs with
      | none => none
      | some (octet, rest) =>
          (takeOctets false n rest).map fun more => (octet :: more.1, more.2)

/-- Groups as far as they go, at most `n`; the last two may be four octets. Tells whether they
were. -/
def takeGroups (isFirst : Bool) : Nat → List Char → (List Nat × Bool) × List Char
  | 0, cs => (([], false), cs)
  | n + 1, cs =>
      let asOctets := if 0 < n then takeBehind ':' isFirst (takeOctets true 4) cs else none
      match asOctets with
      | some ([a, b, c, d], rest) => (([a * 256 + b, c * 256 + d], true), rest)
      | _ =>
          match takeBehind ':' isFirst (takeNumber 16 4 0xFFFF true) cs with
          | none => (([], false), cs)
          | some (group, rest) =>
              let more := takeGroups false n rest
              ((group :: more.1.1, more.1.2), more.2)

def takeV6 : Take Groups := fun cs =>
  let ((ahead, octets), rest) := takeGroups true 8 cs
  if ahead.length = 8 then some (ahead, rest)
  else if octets then none
  else match rest with
    | ':' :: ':' :: rest =>
        let ((behind, _), rest) := takeGroups true (8 - (ahead.length + 1)) rest
        some (ahead ++ List.replicate (8 - ahead.length - behind.length) 0 ++ behind, rest)
    | _ => none

def takeZone : Take Unit
  | '%' :: rest =>
      (takeNumber 10 (rest.length + 1) (Nat.pow 2 32 - 1) true rest).map fun next => ((), next.2)
  | cs => some ((), cs)

structure SocketAddress where
  address : Address
  port : Nat
  deriving DecidableEq, Repr

namespace SocketAddress

def takePort : Take Nat := fun cs =>
  (takeChar ':' cs).bind fun next => takeNumber 10 (cs.length + 1) 65535 true next.2

def takeAddress : Take Address := fun cs =>
  match takeOctets true 4 cs with
  | some (octets, rest) => some (.v4 octets, rest)
  | none =>
      match cs with
      | '[' :: rest =>
          match takeV6 rest with
          | none => none
          | some (groups, rest) =>
              (takeZone rest).bind fun next =>
                (takeChar ']' next.2).map fun next => (.v6 groups, next.2)
      | _ => none

def parse? (cs : List Char) : Option SocketAddress :=
  match takeAddress cs with
  | none => none
  | some (address, rest) =>
      match takePort rest with
      | some (port, []) => some ⟨address, port⟩
      | _ => none

end SocketAddress

end AccessGate.Net
