import AccessGate.Text.Blank
import AccessGate.Text.Number

/-!
The authority of a request target: who is to answer, with user information and a port where they
are given.
-/

namespace AccessGate.Http

inductive TargetError where
  | emptyText
  | badFormat
  | badCharacter
  | badAuthority
  | tooLong
  | schemeTooLong
  deriving DecidableEq, Repr

namespace TargetError

def message : TargetError → String
  | emptyText => "empty string"
  | badFormat => "invalid format"
  | badCharacter => "invalid uri character"
  | badAuthority => "invalid authority"
  | tooLong => "uri too long"
  | schemeTooLong => "scheme too long"

end TargetError

namespace Authority

def isTargetChar (c : Char) : Bool :=
  c.isAlphanum || "!#$&'()*+,-./:;=?@[]_~".toList.contains c

/-- What a scan over an authority remembers. -/
structure Scan where
  colons : Nat
  opened : Bool
  closed : Bool
  percent : Bool
  /-- Whether the last character was the sign that ends the user information. -/
  bareUser : Bool
  deriving DecidableEq, Repr

def Scan.start : Scan := ⟨0, false, false, false, false⟩

/-- An address in brackets can hold seven colons, and the port has one. -/
def maxColons : Nat := 8

def Scan.step (s : Scan) (c : Char) : Except TargetError Scan :=
  let s := { s with bareUser := false }
  match c with
  | ':' =>
      if maxColons ≤ s.colons then .error .badAuthority else .ok { s with colons := s.colons + 1 }
  | '[' => if s.percent || s.opened then .error .badAuthority else .ok { s with opened := true }
  | ']' =>
      if !s.opened || s.closed then .error .badAuthority
      else .ok { s with closed := true, colons := 0, percent := false }
  | '@' => .ok { s with colons := 0, percent := false, bareUser := true }
  | '%' => .ok { s with percent := true }
  | c => if isTargetChar c then .ok s else .error .badCharacter

def endsAuthority (c : Char) : Bool := c == '/' || c == '?' || c == '#'

def scan (s : Scan) : List Char → Except TargetError Scan
  | [] => .ok s
  | c :: rest => (s.step c).bind fun s => scan s rest

/-- At most one colon is left that is not explained, brackets come in pairs, and a percent sign
is only for the user information or an address. -/
def Scan.isSound (s : Scan) : Bool :=
  s.opened == s.closed && s.colons ≤ 1 && !s.bareUser && !s.percent

def ahead (cs : List Char) : Except TargetError (List Char × List Char) :=
  let authority := cs.takeWhile (!endsAuthority ·)
  match scan .start authority with
  | .error e => .error e
  | .ok s => if s.isSound then .ok (authority, cs.drop authority.length) else .error .badAuthority

def parse (cs : List Char) : Except TargetError (List Char) :=
  if cs.isEmpty then .error .emptyText
  else match ahead cs with
    | .error e => .error e
    | .ok (authority, []) => .ok authority
    | .ok _ => .error .badCharacter

def afterLast (mark : Char) (cs : List Char) : List Char :=
  (cs.reverse.takeWhile (· != mark)).reverse

/-- Name or address, brackets included. -/
def host (authority : List Char) : List Char :=
  let place := afterLast '@' authority
  match place with
  | '[' :: _ => place.takeWhile (· != ']') ++ [']']
  | _ => place.takeWhile (· != ':')

def port? (authority : List Char) : Option Nat :=
  if authority.contains ':' then Text.unsigned? 65535 (afterLast ':' authority) else none

/-- Host in lower case and port, without user information and leading zeros. -/
def normal (authority : List Char) : List Char :=
  let name := Text.lower (host authority)
  match port? authority with
  | some port => name ++ ':' :: Text.natText port
  | none => name

end Authority

end AccessGate.Http
