import AccessGate.Text.Blank
import AccessGate.Text.Number
import AccessGate.Unicode.CategoryData
import AccessGate.Unicode.CodeSet
import AccessGate.Unicode.FlagData
import AccessGate.Unicode.ScriptData

/-!
Character properties by name. Names are compared without regard to case, blanks, hyphens and
underscores, and a leading "is" does not count.
-/

namespace AccessGate.Unicode

open Text (hexValue? valueIn)

def hexAhead (cs : List Char) : Nat × List Char :=
  let digits := cs.takeWhile fun c => c.isDigit || ('a' ≤ c && c ≤ 'f')
  (valueIn 16 (digits.filterMap hexValue?), cs.drop digits.length)

/-- Runs `length, name` from a code point on: each with its first and last code point. -/
def runsFrom (nameLength : Nat) : Nat → Nat → List Char → List (String × Nat × Nat)
  | 0, _, _ => []
  | _, _, [] => []
  | fuel + 1, start, cs =>
      let length := hexAhead cs
      let name := String.ofList (length.2.take nameLength)
      (name, start, start + length.1 - 1) ::
        runsFrom nameLength fuel (start + length.1) (length.2.drop nameLength)

def runs (nameLength : Nat) (lines : List String) : List (String × Nat × Nat) :=
  let cs := lines.flatMap String.toList
  runsFrom nameLength cs.length 0 cs

def categories : List (String × Nat × Nat) := runs 2 categoryRuns

def scripts : List (String × Nat × Nat) := runs 4 scriptRuns

def gapRanges (start : Nat) : List (List Char) → CodeSet
  | [] => []
  | piece :: rest =>
      let gap := hexAhead piece
      let length := (hexAhead (gap.2.drop 1)).1
      let low := start + gap.1
      (low, low + length - 1) :: gapRanges (low + length) rest

def flag? (name : String) : Option CodeSet :=
  (flagRuns.find? (·.1 == name)).map fun entry =>
    gapRanges 0 (Text.pieces ' ' (entry.2.flatMap String.toList))

def flag (name : String) : CodeSet := (flag? name).getD []

def category (names : List String) : CodeSet :=
  .ofRanges ((categories.filter fun run => names.contains run.1).map (·.2))

def script (name : String) : CodeSet :=
  .ofRanges ((scripts.filter fun run => run.1 == name).map (·.2))

def categoryNames : List (String × String × List String) :=
  [("Lu", "Uppercase_Letter", ["Lu"]),
   ("Ll", "Lowercase_Letter", ["Ll"]),
   ("Lt", "Titlecase_Letter", ["Lt"]),
   ("LC", "Cased_Letter", ["Lu", "Ll", "Lt"]),
   ("Lm", "Modifier_Letter", ["Lm"]),
   ("Lo", "Other_Letter", ["Lo"]),
   ("L", "Letter", ["Lu", "Ll", "Lt", "Lm", "Lo"]),
   ("Mn", "Nonspacing_Mark", ["Mn"]),
   ("Mc", "Spacing_Mark", ["Mc"]),
   ("Me", "Enclosing_Mark", ["Me"]),
   ("M", "Mark", ["Mn", "Mc", "Me"]),
   ("", "Combining_Mark", ["Mn", "Mc", "Me"]),
   ("Nd", "Decimal_Number", ["Nd"]),
   ("", "digit", ["Nd"]),
   ("Nl", "Letter_Number", ["Nl"]),
   ("No", "Other_Number", ["No"]),
   ("N", "Number", ["Nd", "Nl", "No"]),
   ("Pc", "Connector_Punctuation", ["Pc"]),
   ("Pd", "Dash_Punctuation", ["Pd"]),
   ("Ps", "Open_Punctuation", ["Ps"]),
   ("Pe", "Close_Punctuation", ["Pe"]),
   ("Pi", "Initial_Punctuation", ["Pi"]),
   ("Pf", "Final_Punctuation", ["Pf"]),
   ("Po", "Other_Punctuation", ["Po"]),
   ("P", "Punctuation", ["Pc", "Pd", "Ps", "Pe", "Pi", "Pf", "Po"]),
   ("", "punct", ["Pc", "Pd", "Ps", "Pe", "Pi", "Pf", "Po"]),
   ("Sm", "Math_Symbol", ["Sm"]),
   ("Sc", "Currency_Symbol", ["Sc"]),
   ("Sk", "Modifier_Symbol", ["Sk"]),
   ("So", "Other_Symbol", ["So"]),
   ("S", "Symbol", ["Sm", "Sc", "Sk", "So"]),
   ("Zs", "Space_Separator", ["Zs"]),
   ("Zl", "Line_Separator", ["Zl"]),
   ("Zp", "Paragraph_Separator", ["Zp"]),
   ("Z", "Separator", ["Zs", "Zl", "Zp"]),
   ("Cc", "Control", ["Cc"]),
   ("", "cntrl", ["Cc"]),
   ("Cf", "Format", ["Cf"]),
   ("Co", "Private_Use", ["Co"]),
   ("Cn", "Unassigned", ["Cn"]),
   ("C", "Other", ["Cc", "Cf", "Co", "Cn", "Cs"])]

def plainName (name : String) : String :=
  let kept := (name.toList.filter fun c => !(c == ' ' || c == '_' || c == '-')).map Char.toLower
  match kept with
  | 'i' :: 's' :: rest => if rest = ['c'] then "isc" else String.ofList rest
  | _ => String.ofList kept

def sameName (plain name : String) : Bool :=
  name != "" && plainName name == plain

def flagByName? (plain : String) : Option CodeSet :=
  let name := (flagNames.find? fun entry => sameName plain entry.1).map (·.2)
  match name with
  | some long => flag? long
  | none => (flagRuns.find? fun entry => sameName plain entry.1).bind fun entry => flag? entry.1

def categoryByName? (plain : String) : Option CodeSet :=
  if plain == "any" then some .everything
  else if plain == "ascii" then some [(0, 0x7F)]
  else if plain == "assigned" then some (CodeSet.complement (category ["Cn"]))
  else (categoryNames.find? fun entry => sameName plain entry.1 || sameName plain entry.2.1).map
    fun entry => category entry.2.2

def scriptByName? (plain : String) : Option CodeSet :=
  (scriptNames.find? fun entry => sameName plain entry.1 || sameName plain entry.2).map
    fun entry => script entry.1

def byName? (name : String) : Option CodeSet :=
  let plain := plainName name
  let asFlag :=
    if plain == "cf" || plain == "sc" || plain == "lc" then none else flagByName? plain
  (asFlag.or (categoryByName? plain)).or (scriptByName? plain)

def byValue? (name value : String) : Option CodeSet :=
  let property := plainName name
  let plain := plainName value
  if property == "gc" || property == "generalcategory" then categoryByName? plain
  else if property == "sc" || property == "script" then scriptByName? plain
  else none

def decimalDigits : CodeSet := category ["Nd"]

def blanks : CodeSet := flag "White_Space"

/-- The characters of words: letters, marks, decimal digits, connectors and joiners. -/
def wordCharacters : CodeSet :=
  .ofRanges (flag "Alphabetic" ++ category ["Mn", "Mc", "Me", "Nd", "Pc"] ++ flag "Join_Control")

end AccessGate.Unicode
