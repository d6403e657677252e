import AccessGate.Text.Blank
import AccessGate.Unicode.Case
import AccessGate.Unicode.Composition
import AccessGate.Unicode.NameExpansionData
import AccessGate.Unicode.NameMapData
import AccessGate.Url.Punycode

/-!
Domain names in ASCII. A name is mapped (case, width and compatibility forms), composed, and each
label beyond ASCII is written in Punycode behind `xn--`. A name with a character that no name may
have is refused.
-/

namespace AccessGate.Url.DomainName

open Unicode

def isForbidden (c : Char) : Bool :=
  c.toNat ≤ 0x20 || c.toNat == 0x7F || "#%/:<>?@[\\]^|".toList.contains c

def runs : List CaseRun := caseRunsOf nameRuns

def expansions : List (Nat × List Nat) :=
  (Text.pieces ';' (nameExpansions.flatMap String.toList)).map fun entry =>
    let split := Text.cut '=' entry
    ((hexAhead split.1).1,
      (Text.pieces '.' (split.2.getD [])).map fun piece => (hexAhead piece).1)

def isDot (n : Nat) : Bool := n == 0x2E || n == 0x3002

def mapPoint (n : Nat) : List Nat :=
  if n < 0x80 then [(Char.ofNat n).toLower.toNat]
  else if isDot n then [0x2E]
  else if CodeSet.contains nameGaps n then []
  else match runs.findSome? (·.image? n) with
    | some m => if isDot m then [0x2E] else [m]
    | none =>
        match expansions.find? (·.1 == n) with
        | some entry => entry.2
        | none => [n]

def marks : CodeSet := category ["Mn", "Mc", "Me"]

def excluded : CodeSet := category ["Cc", "Cf", "Cs", "Co", "Cn", "Zs", "Zl", "Zp"]

def isJoiner (n : Nat) : Bool := n == 0x200C || n == 0x200D

def isAdmitted (n : Nat) : Bool :=
  if n < 0x80 then !isForbidden (Char.ofNat n)
  else isJoiner n || !excluded.contains n

/-- A joiner has to follow a virama. -/
def joinersFit : Option Nat → List Nat → Bool
  | _, [] => true
  | before, n :: rest =>
      (!isJoiner n || before.any (combiningClass · == 9)) && joinersFit (some n) rest

def rightToLeft : CodeSet :=
  .ofRanges ((["Hebr", "Arab", "Syrc", "Thaa", "Nkoo", "Samr", "Mand"].flatMap script))

def letters : CodeSet := category ["Lu", "Ll", "Lt", "Lm", "Lo"]

def turns (n : Nat) : Bool := rightToLeft.contains n && letters.contains n

/-- A label from right to left begins with such a letter and has no others; once a name has one,
its other labels begin with a letter. -/
def directionFits (label : List Nat) : Bool :=
  match label with
  | [] => true
  | first :: _ =>
      if label.any turns then
        turns first && label.all fun n => turns n || !letters.contains n
      else letters.contains first

def labelFits (label : List Nat) : Bool :=
  label.all isAdmitted && joinersFit none label &&
    match label with
    | [] => true
    | first :: _ => !marks.contains first

def escapeMark : List Nat := "xn--".toList.map Char.toNat

/-- A label as code points: one in Punycode is read, and must be what it would be written as. -/
def readLabel (label : List Nat) : Option (List Nat) :=
  if label.take 4 = escapeMark then
    match Punycode.decode? ((label.drop 4).map Char.ofNat) with
    | some points =>
        if points.any (128 ≤ ·) ∧ points = composed (points.flatMap mapPoint) ∧
            points.all (· != 0x2E) then some points
        else none
    | none => none
  else some label

def writeLabel (label : List Nat) : List Char :=
  if label.all (· < 128) then label.map Char.ofNat
  else "xn--".toList ++ Punycode.encode label

def labels : List Nat → List (List Nat)
  | [] => [[]]
  | n :: rest =>
      if n = 0x2E then [] :: labels rest
      else match labels rest with
        | [] => [[n]]
        | first :: others => (n :: first) :: others

def toAscii? (name : List Char) : Option (List Char) :=
  let mapped := name.flatMap fun c => mapPoint c.toNat
  let points := if mapped.all (· < 128) then mapped else composed mapped
  match (labels points).mapM readLabel with
  | none => none
  | some found =>
      let turned := found.any (·.any turns)
      if found.all labelFits ∧ (turned = false ∨ found.all directionFits) then
        some (['.'].intercalate (found.map writeLabel))
      else none

end AccessGate.Url.DomainName
