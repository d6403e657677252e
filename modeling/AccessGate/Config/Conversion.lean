import AccessGate.Config.Tree
import AccessGate.Text.Quoted

/-!
Values of a configuration read as a wanted kind. Scalars are converted where that makes sense: a
text may spell a number or a flag, and any scalar has a text.
-/

namespace AccessGate.Config

open Json (Step Value)

inductive Error where
  | wrongType (found expected : String) (key : List Step) (origin : Origin)
  | misshapen (reason : String)
  | unreadable
  | unknownFormat (path : String)
  deriving DecidableEq, Repr

namespace Error

def keyText : List Step → String
  | [] => ""
  | .member name :: rest => name ++ Json.pathText rest
  | steps => Json.pathText steps

def message : Error → String
  | wrongType found expected key origin =>
      "invalid type: " ++ found ++ ", expected " ++ expected ++
        (if key.isEmpty then "" else " for key \x60" ++ keyText key ++ "\x60") ++
        (match origin with
          | some place => " in " ++ place
          | none => "")
  | misshapen reason => reason
  | unreadable => "the file cannot be read"
  | unknownFormat path =>
      "configuration file \"" ++ path ++ "\" is not of a registered file format"

/-- The same error seen from outside; only conversions tell where they failed. -/
def under (step : Step) : Error → Error
  | wrongType found expected key origin => wrongType found expected (step :: key) origin
  | e => e

end Error

def quotedText (s : String) : String := "string " ++ String.ofList (Text.quoted s.toList)

namespace Tree

def found : Tree → String
  | leaf _ .nothing => "unit value"
  | leaf _ (.flag b) => if b then "boolean \x60true\x60" else "boolean \x60false\x60"
  | leaf _ (.whole i) => "64-bit integer \x60" ++ String.ofList (Text.intText i) ++ "\x60"
  | leaf _ (.real x) => "floating point \x60" ++ String.ofList x.plainText ++ "\x60"
  | leaf _ (.text s) => quotedText s
  | list _ _ => "sequence"
  | table _ _ => "map"

def shape : Tree → String
  | leaf _ (.whole i) => "integer \x60" ++ String.ofList (Text.intText i) ++ "\x60"
  | leaf _ (.real x) => "floating point \x60" ++ String.ofList x.text ++ "\x60"
  | tree => tree.found

def unconvertible (tree : Tree) (expected : String) : Except Error α :=
  .error (.wrongType tree.found expected [] tree.origin)

def mismatch (tree : Tree) (expected : String) : Except Error α :=
  .error (.misshapen ("invalid type: " ++ tree.shape ++ ", expected " ++ expected))

def text (tree : Tree) : Except Error String :=
  match tree with
  | leaf _ (.text s) => .ok s
  | leaf _ (.flag b) => .ok (if b then "true" else "false")
  | leaf _ (.whole i) => .ok (String.ofList (Text.intText i))
  | leaf _ (.real x) => .ok (String.ofList x.plainText)
  | tree => tree.unconvertible "a string"

def largest : Nat := Nat.pow 2 64 - 1

def rounded (x : Double) : Nat :=
  if x.isFinite = false then (if x.isNegative ∨ x.fraction ≠ 0 then 0 else largest)
  else if x.isNegative then 0
  else
    let (top, bottom) := Double.ratio x.significand x.exponent
    min largest ((2 * top + bottom) / (2 * bottom))

def yes : List String := ["true", "on", "yes"]

def no : List String := ["false", "off", "no"]

def natural (tree : Tree) : Except Error Nat :=
  match tree with
  | leaf origin (.whole i) =>
      if 0 ≤ i then .ok i.toNat
      else .error (.wrongType tree.found "an unsigned 64 bit or less integer" [] origin)
  | leaf _ (.flag b) => .ok (if b then 1 else 0)
  | leaf _ (.real x) => .ok (rounded x)
  | leaf _ (.text s) =>
      if yes.contains (lowered s) then .ok 1
      else if no.contains (lowered s) then .ok 0
      else match Text.unsigned? largest s.toList with
        | some n => .ok n
        | none => tree.unconvertible "an integer"
  | tree => tree.unconvertible "an integer"

def port (tree : Tree) : Except Error Nat :=
  match tree.natural with
  | .error e => .error e
  | .ok n =>
      if n < Nat.pow 2 16 then .ok n
      else .error (.wrongType ("64-bit unsigned integer \x60" ++ toString n ++ "\x60")
        "an unsigned 16 bit integer" [] none)

def flag (tree : Tree) : Except Error Bool :=
  match tree with
  | leaf _ (.flag b) => .ok b
  | leaf _ (.whole i) => .ok (i != 0)
  | leaf _ (.real x) => .ok (x.significand != 0)
  | leaf origin (.text s) =>
      if ("1" :: yes).contains (lowered s) then .ok true
      else if ("0" :: no).contains (lowered s) then .ok false
      else .error (.wrongType (quotedText (lowered s)) "a boolean" [] origin)
  | tree => tree.unconvertible "a boolean"

def textsFrom (index : Nat) : List Tree → Except Error (List String)
  | [] => .ok []
  | item :: rest =>
      match item.text with
      | .error e => .error (e.under (.item index))
      | .ok first => (textsFrom (index + 1) rest).map (first :: ·)

def texts (tree : Tree) : Except Error (List String) :=
  match tree with
  | list _ items => textsFrom 0 items
  | tree => tree.mismatch "a sequence"

def named (title : String) (names : List String) (name : String) : Except Error String :=
  match names.find? fun known => lowered known == lowered name with
  | some known => .ok known
  | none =>
      .error (.misshapen ("enum " ++ title ++ " does not have variant constructor " ++ name))

def choice (title : String) (names : List String) (tree : Tree) : Except Error String :=
  match tree with
  | leaf _ (.text s) => named title names s
  | table _ [(name, _)] => named title names name
  | _ =>
      .error (.misshapen ("value of enum " ++ title ++
        " should be represented by either string or table with exactly one key"))

end Tree

end AccessGate.Config
