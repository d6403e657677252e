import AccessGate.Url.Basic

/-!
Reading absolute URLs. Blanks around the text and line ends inside it do not count. The text is cut
at the first mark that ends each part, and each part is escaped by its own rule.
-/

namespace AccessGate.Url

open Text (digitValue? valueIn)

def escapedInQuery (special : Bool) (c : Char) : Bool :=
  c.toNat ≤ 0x20 || c.toNat == 0x7F || "\"#<>".toList.contains c || (special && c == '\'')

def escapedInFragment (c : Char) : Bool :=
  c.toNat ≤ 0x20 || c.toNat == 0x7F || "\"<>\x60".toList.contains c

def escapedInUserInfo (c : Char) : Bool :=
  escapedInPath c || "/:;=@[\\]^|".toList.contains c

def cleaned (cs : List Char) : List Char :=
  let blank := fun c : Char => decide (c.toNat ≤ 0x20)
  let trimmed := ((cs.dropWhile blank).reverse.dropWhile blank).reverse
  trimmed.filter fun c => c != '\t' && c != '\n' && c != '\r'

def isSchemeChar (c : Char) : Bool := c.isAlphanum || c == '+' || c == '-' || c == '.'

def splitScheme (cs : List Char) : Option (List Char × List Char) :=
  if (cs.head?.map Char.isAlpha) = some true then
    let scheme := cs.takeWhile isSchemeChar
    match cs.drop scheme.length with
    | ':' :: rest => some (Text.lower scheme, rest)
    | _ => none
  else none

def endsPath (c : Char) : Bool := c == '?' || c == '#'

def endsAuthority (special : Bool) (c : Char) : Bool :=
  c == '/' || endsPath c || (special && c == '\\')

/-- User information as far as the last sign that ends it. -/
structure Credentials where
  username : List Char
  password : List Char

def credentials (cs : List Char) : Credentials :=
  let split := Text.cut ':' cs
  let encode := Percent.encode escapedInUserInfo
  ⟨encode split.1, encode (split.2.getD [])⟩

def splitCredentials (special : Bool) (cs : List Char) :
    Except UrlError (Credentials × List Char) :=
  let authority := cs.takeWhile (!endsAuthority special ·)
  if authority.contains '@' then
    let place := (authority.reverse.takeWhile (· != '@')).reverse
    let info := authority.take (authority.length - place.length - 1)
    let behind := cs.drop authority.length
    if info.isEmpty ∧ place.isEmpty ∧ behind.isEmpty = false then .error .noHost
    else .ok (credentials info, place ++ behind)
  else .ok (⟨[], []⟩, cs)

/-- The text of a host; a colon inside brackets belongs to it. -/
def hostLength (special inside : Bool) : List Char → Nat
  | [] => 0
  | c :: rest =>
      if endsAuthority special c || (c == ':' && !inside) then 0
      else hostLength special (c == '[' || (inside && c != ']')) rest + 1

def splitHost (special : Bool) (cs : List Char) : Except UrlError (Host × List Char) :=
  let size := hostLength special false cs
  let text := cs.take size
  let rest := cs.drop size
  if special then
    if text.isEmpty then .error .noHost else (Host.parse text).map (·, rest)
  else
    match Host.parseOpaque text with
    | .error e => .error e
    | .ok host =>
        if text.isEmpty ∧ rest.head? = some ':' then .error .noHost else .ok (host, rest)

/-- A port and what stands behind it; the scheme's own port is not kept. -/
def splitPort (scheme cs : List Char) : Except UrlError (Option Nat × List Char) :=
  match cs with
  | ':' :: rest =>
      let digits := rest.takeWhile Char.isDigit
      let behind := rest.drop digits.length
      let port := valueIn 10 (digits.filterMap digitValue?)
      let ends : Bool := match behind with
        | [] => true
        | c :: _ => endsAuthority true c
      if port ≤ 65535 ∧ ends then
        .ok (if digits.isEmpty ∨ defaultPort? scheme = some port then none else some port, behind)
      else .error .badPort
  | _ => .ok (none, cs)

def tail (special : Bool) (cs : List Char) : Option (List Char) × Option (List Char) :=
  let fragment := fun cs => Percent.encode escapedInFragment cs
  match cs with
  | '?' :: rest =>
      let split := Text.cut '#' rest
      (some (Percent.encode (escapedInQuery special) split.1), split.2.map fragment)
  | '#' :: rest => (none, some (fragment rest))
  | _ => (none, none)

def splitPath (cs : List Char) : List Char × List Char :=
  let path := cs.takeWhile (!endsPath ·)
  (path, cs.drop path.length)

def hostedPath (isFile special : Bool) (path : List Char) : List (List Char) :=
  match path with
  | [] => if special then [[]] else []
  | c :: rest =>
      if Path.isSeparator special c then Path.segments isFile special rest
      else Path.segments isFile special path

def withTail (url : Url) (rest : List Char) : Url :=
  let ends := tail (isSpecial url.scheme) rest
  { url with query := ends.1, fragment := ends.2 }

def parseHosted (scheme cs : List Char) : Except UrlError Url :=
  let special := isSpecial scheme
  match splitCredentials special cs with
  | .error e => .error e
  | .ok (who, rest) =>
      match splitHost special rest with
      | .error e => .error e
      | .ok (host, rest) =>
          match splitPort scheme rest with
          | .error e => .error e
          | .ok (port, rest) =>
              if host = .domain [] ∧ (who.username ≠ [] ∨ who.password ≠ []) then .error .noHost
              else
                let (path, rest) := splitPath rest
                let segments := hostedPath false special path
                .ok (withTail ⟨scheme, who.username, who.password, some host, port,
                  .segments segments, none, none⟩ rest)

def fileUrl (host : Host) (segments : List (List Char)) (rest : List Char) : Url :=
  let host := if Path.onDrive segments then .domain [] else host
  withTail ⟨"file".toList, [], [], some host, none, .segments (Path.dropEmpty segments), none, none⟩
    rest

def parseFileHost (cs : List Char) : Except UrlError Url :=
  let text := cs.takeWhile (!endsAuthority true ·)
  let (name, rest) := if Path.isDrive text then ([], cs) else (text, cs.drop text.length)
  let (path, rest) := splitPath rest
  if name.isEmpty then .ok (fileUrl (.domain []) (Path.segments true true path) rest)
  else match Host.parse name with
    | .error e => .error e
    | .ok host =>
        if host = .domain "localhost".toList then
          .ok (fileUrl (.domain []) (Path.segments true true path) rest)
        else .ok (fileUrl host (hostedPath true true path) rest)

def parseFile (cs : List Char) : Except UrlError Url :=
  let slash := fun c : Char => Path.isSeparator true c
  let (path, rest) := splitPath cs
  match cs with
  | a :: b :: behind =>
      if slash a ∧ slash b then parseFileHost behind
      else if slash a then .ok (fileUrl (.domain []) (Path.segments true true path.tail) rest)
      else .ok (fileUrl (.domain []) (Path.segments true true path) rest)
  | [a] =>
      let inner := if slash a then path.tail else path
      .ok (fileUrl (.domain []) (Path.segments true true inner) rest)
  | [] => .ok (fileUrl (.domain []) (Path.segments true true []) [])

def parsePlain (scheme cs : List Char) : Except UrlError Url :=
  match cs with
  | '/' :: '/' :: rest => parseHosted scheme rest
  | '/' :: rest =>
      let (path, rest) := splitPath rest
      .ok (withTail ⟨scheme, [], [], none, none, .segments (Path.segments false false path), none,
        none⟩ rest)
  | _ =>
      let (path, rest) := splitPath cs
      .ok (withTail ⟨scheme, [], [], none, none, .text (Percent.encode Host.isControl path), none,
        none⟩ rest)

def parse (cs : List Char) : Except UrlError Url :=
  match splitScheme (cleaned cs) with
  | none => .error .relative
  | some (scheme, rest) =>
      if isFile scheme then parseFile rest
      else if isSpecial scheme then parseHosted scheme (rest.dropWhile (Path.isSeparator true))
      else parsePlain scheme rest

end AccessGate.Url
