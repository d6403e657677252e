import AccessGate.Http.Authority
import AccessGate.Text.Utf8

/-!
Request targets in their forms: a path with a query, an absolute one with scheme and authority,
and an authority alone.
-/

namespace AccessGate.Http

inductive Target where
  | origin (path : List Char) (query : Option (List Char))
  | absolute (scheme authority path : List Char) (query : Option (List Char))
  | bare (authority : List Char)
  deriving DecidableEq, Repr, Inhabited

namespace Target

def isPathChar (c : Char) : Bool :=
  let n := c.toNat
  n == 0x21 || (0x24 ≤ n && n ≤ 0x3B) || n == 0x3D || (0x40 ≤ n && n ≤ 0x5F) ||
    (0x61 ≤ n && n ≤ 0x7E) || 0x7F ≤ n || n == 0x22

def isQueryChar (c : Char) : Bool :=
  let n := c.toNat
  n == 0x21 || (0x24 ≤ n && n ≤ 0x3B) || n == 0x3D || 0x3F ≤ n

/-- Path and query of a text; a fragment is dropped. -/
def pathAndQuery (cs : List Char) : Except TargetError (List Char × Option (List Char)) :=
  let path := cs.takeWhile fun c => c != '?' && c != '#'
  if path.all isPathChar then
    match cs.drop path.length with
    | '?' :: rest =>
        let query := rest.takeWhile (· != '#')
        if query.all isQueryChar then .ok (path, some query) else .error .badCharacter
    | _ => .ok (path, none)
  else .error .badCharacter

def isSchemeChar (c : Char) : Bool :=
  c.isAlphanum || c == '+' || c == '-' || c == '.' || c == '~'

def maxScheme : Nat := 64

def maxLength : Nat := 65534

def schemeAhead (cs : List Char) : Except TargetError (Option (List Char × List Char)) :=
  let scheme := cs.takeWhile isSchemeChar
  match cs.drop scheme.length with
  | ':' :: '/' :: '/' :: rest =>
      let low := Text.lower scheme
      if low = "http".toList ∨ low = "https".toList then .ok (some (low, rest))
      else if cs.length ≤ 3 then .ok none
      else if maxScheme < scheme.length then .error .schemeTooLong
      else .ok (some (scheme, rest))
  | _ => .ok none

/-- A target that is more than one character long and begins with no slash. -/
def parseFull (cs : List Char) : Except TargetError Target :=
  match schemeAhead cs with
  | .error e => .error e
  | .ok none =>
      match Authority.ahead cs with
      | .error e => .error e
      | .ok (name, []) => .ok (.bare name)
      | .ok _ => .error .badFormat
  | .ok (some (scheme, rest)) =>
      match Authority.ahead rest with
      | .error e => .error e
      | .ok ([], _) => .error .badFormat
      | .ok (name, rest) =>
          (pathAndQuery rest).map fun split => .absolute scheme name split.1 split.2

def parse (cs : List Char) : Except TargetError Target :=
  if maxLength < Utf8.size cs then .error .tooLong
  else match cs with
    | [] => .error .emptyText
    | ['*'] => .ok (.origin ['*'] none)
    | '/' :: _ => (pathAndQuery cs).map fun split => .origin split.1 split.2
    | [_] => (Authority.parse cs).map .bare
    | _ => parseFull cs

def scheme? : Target → Option (List Char)
  | absolute scheme _ _ _ => some scheme
  | _ => none

def authority? : Target → Option (List Char)
  | origin _ _ => none
  | absolute _ authority _ _ => some authority
  | bare authority => some authority

def queryText : Option (List Char) → List Char
  | some query => '?' :: query
  | none => []

def orSlash (cs : List Char) : List Char := if cs.isEmpty then ['/'] else cs

/-- Path and query as they stand in the target; an authority alone has none. -/
def pathAndQuery? : Target → Option (List Char)
  | origin path query => some (path ++ queryText query)
  | absolute _ _ path query => some (orSlash (path ++ queryText query))
  | bare _ => none

/-- The path; of an absolute target without one it is the root. -/
def path : Target → List Char
  | origin path _ => path
  | absolute _ _ path _ => orSlash path
  | bare _ => []

def query? : Target → Option (List Char)
  | origin _ query => query
  | absolute _ _ _ query => query
  | bare _ => none

def render : Target → List Char
  | origin path query => path ++ queryText query
  | absolute scheme authority path query =>
      scheme ++ "://".toList ++ authority ++ orSlash path ++ queryText query
  | bare authority => authority

end Target

end AccessGate.Http
