import AccessGate.Text.Percent

/-!
Paths of URLs as segments. Dot segments are resolved while the path is read: one dot stands for
nothing, two dots take back the last complete segment. A segment that names a drive is not taken
back.
-/

namespace AccessGate.Url

def escapedInPath (c : Char) : Bool :=
  c.toNat ≤ 0x20 || c.toNat == 0x7F || "\"#<>?\x60\x7b\x7d".toList.contains c

namespace Path

def isSeparator (special : Bool) (c : Char) : Bool := c == '/' || (special && c == '\\')

def isSingleDot (segment : List Char) : Bool :=
  [".", "%2e"].contains (String.ofList (Text.lower segment))

def isDoubleDot (segment : List Char) : Bool :=
  ["..", ".%2e", "%2e.", "%2e%2e"].contains (String.ofList (Text.lower segment))

def isDrive : List Char → Bool
  | [letter, mark] => letter.isAlpha && (mark == ':' || mark == '|')
  | _ => false

def isNormalDrive : List Char → Bool
  | [letter, ':'] => letter.isAlpha
  | _ => false

def pieces (special : Bool) : List Char → List (List Char)
  | [] => [[]]
  | c :: rest =>
      if isSeparator special c then [] :: pieces special rest
      else match pieces special rest with
        | [] => [[c]]
        | first :: others => (c :: first) :: others

/-- Takes back the last complete segment; `done` stands backwards. -/
def shorten : List (List Char) → List (List Char)
  | [] => []
  | last :: rest => if isDrive last then last :: rest else rest

/-- The segment in the first place of a file's path: a drive there has a colon. -/
def normalDrive (segment : List Char) : List Char :=
  match segment with
  | [letter, _] => if isDrive segment then [letter, ':'] else segment
  | _ => segment

/-- A first segment that goes on behind a drive ends with the drive. -/
def splitDrive (segment : List Char) : List (List Char) :=
  match segment with
  | letter :: ':' :: c :: rest => if letter.isAlpha then [[letter, ':'], c :: rest] else [segment]
  | _ => [segment]

def push (isFile : Bool) (done : List (List Char)) (segment : List Char) : List (List Char) :=
  if isDoubleDot segment then shorten done
  else if isSingleDot segment then done
  else if isFile && done.isEmpty then normalDrive segment :: done
  else segment :: done

/-- The last segment: dots leave an empty one. -/
def close (isFile : Bool) (done : List (List Char)) (segment : List Char) : List (List Char) :=
  if isDoubleDot segment then [] :: shorten done
  else if isSingleDot segment then [] :: done
  else if isFile && done.isEmpty then normalDrive segment :: done
  else segment :: done

def walk (isFile : Bool) : List (List Char) → List (List Char) → List (List Char)
  | done, [] => done
  | done, [last] => close isFile done last
  | done, segment :: rest => walk isFile (push isFile done segment) rest

/-- Empty segments at the start of a file's path do not count, but one segment stays. -/
def dropEmpty : List (List Char) → List (List Char)
  | [] :: next :: rest => dropEmpty (next :: rest)
  | segments => segments

def segments (isFile special : Bool) (cs : List Char) : List (List Char) :=
  let encoded := (pieces special cs).map (Percent.encode escapedInPath)
  let given := match isFile, encoded with
    | true, first :: rest => splitDrive first ++ rest
    | _, all => all
  (walk isFile [] given).reverse

def onDrive : List (List Char) → Bool
  | first :: _ => isDrive first
  | [] => false

def render (segments : List (List Char)) : List Char :=
  segments.flatMap fun segment => '/' :: segment

end Path

end AccessGate.Url
