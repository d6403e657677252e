import AccessGate.Json.Document
import AccessGate.Text.Quoted

/-!
Readers of JSON values of a fixed kind. A reader walks the tree in document order and gives the
value in its full form: every field of a record is there, in the order of its declaration, with
the default of a field that was left out.
-/

namespace AccessGate.Json

abbrev Reader := Node → Except ReadError Value

def Number.found : Number → String
  | .whole i => "integer `" ++ String.ofList (Text.intText i) ++ "`"
  | .real x => "floating point `" ++ String.ofList x.text ++ "`"

def foundText (s : String) : String := "string " ++ String.ofList (Text.quoted s.toList)

def objectAt (place : Option Place) (objection : Objection) : Except ReadError α :=
  .error ⟨[], objection, place⟩

def Node.unwanted (expected : String) : Node → Except ReadError α
  | .given _ => objectAt none (.wrongType "value" expected)
  | .broken e => .error (.ofSyntax e)
  | .null _ after => objectAt after (.wrongType "null" expected)
  | .bool _ after b =>
      objectAt after (.wrongType (if b then "boolean `true`" else "boolean `false`") expected)
  | .number _ after n => (located n).bind fun n => objectAt after (.wrongType n.found expected)
  | .string _ after s =>
      (located s).bind fun s => objectAt after (.wrongType (foundText s) expected)
  | .array first _ _ => objectAt first (.wrongType "sequence" expected)
  | .object first _ _ => objectAt first (.wrongType "map" expected)

namespace Reader

def text (expected : String) : Reader := fun node =>
  match node.opened with
  | .string _ _ s => (located s).map .string
  | other => other.unwanted expected

def string : Reader := text "a string"

def flag : Reader := fun node =>
  match node.opened with
  | .bool _ _ b => .ok (.bool b)
  | other => other.unwanted "a boolean"

/-- A natural number up to a largest one; `expected` names the bound. -/
def natural (expected : String) (largest : Nat) : Reader := fun node =>
  match node.opened with
  | .number first after n =>
      (located n).bind fun n =>
        match n with
        | .whole i =>
            if 0 ≤ i ∧ i ≤ largest then .ok (.number n)
            else objectAt after (.wrongValue n.found expected)
        | .real _ => (Node.number first after (.ok n)).unwanted expected
  | other => other.unwanted expected

def itemsWith (read : Reader) (index : Nat) : Items → Except ReadError (List Value)
  | .done _ => .ok []
  | .broken e _ => .error (.ofSyntax e)
  | .more _ item rest =>
      match read item with
      | .error e => .error (e.under (.item index))
      | .ok first => (itemsWith read (index + 1) rest).map (first :: ·)

def list (read : Reader) : Reader := fun node =>
  match node.opened with
  | .array _ none items => (itemsWith read 0 items).map .array
  | .array _ (some e) _ => .error (.ofSyntax e)
  | other => other.unwanted "a sequence"

def members : Reader := fun node =>
  match node with
  | .given (.object members) => .ok (.object members)
  | node =>
      match node.opened with
      | .object first deep entries => (Node.object first deep entries).value
      | other => other.unwanted "a map"

def maybe (read : Reader) : Reader := fun node =>
  match node.opened with
  | .null _ _ => .ok .null
  | _ => read node

def nextColumn (place : Place) : Place := ⟨place.line, place.column + 1⟩

/-- The place where a scalar begins, as seen by a reader that looks at its first octet. -/
def beginning : Node → Option Place
  | .null first _ => first
  | .bool first _ _ => first
  | .number first _ _ => first
  | .string first _ _ => first
  | .array first _ _ => first
  | .object first _ _ => first
  | _ => none

def ending : Node → Option Place
  | .null _ after => after
  | .bool _ after _ => after
  | .number _ after _ => after
  | .string _ after _ => after
  | _ => none

def known (names : List String) (place : Option Place) (name : String) : Except ReadError Value :=
  if names.contains name then .ok (.string name)
  else objectAt place (.unknownName name names)

/-- Takes the null that may stand behind a chosen name. -/
def nothing (node : Node) : Except ReadError Unit :=
  match node.opened with
  | .null _ _ => .ok ()
  | other => other.unwanted "unit"

/-- A name with nothing behind it, written as the only member of an object. -/
def soleName (names : List String) (isText : Bool) : Entries → Except ReadError Value
  | .done after =>
      if isText then objectAt after (.fault .valueExpected)
      else objectAt none (.wrongValue "map" "map with a single key")
  | .broken e => .error (.ofSyntax e)
  | .more name after value rest =>
      match isText, rest with
      | false, .more _ _ _ _ => objectAt none (.wrongValue "map" "map with a single key")
      | _, _ =>
          (located name).bind fun name =>
            (known names after name).bind fun chosen =>
              (nothing value).bind fun _ =>
                match rest with
                | .done _ => .ok chosen
                | .broken e => .error (.ofSyntax e)
                | .more _ _ _ _ => objectAt (ending value) (.fault .valueExpected)

def choice (names : List String) : Reader := fun node =>
  match node.opened with
  | .string _ after s => (located s).bind (known names after)
  | .object _ (some e) _ => .error (.ofSyntax e)
  | .object first none entries => soleName names first.isSome entries
  | .broken e => .error (.ofSyntax e)
  | other =>
      match beginning other with
      | some place => objectAt (some (nextColumn place)) (.fault .valueExpected)
      | none => other.unwanted "string or map"

/-- A field of a record. One that may be left out of an object says what it then is; `positional`
says whether it may also be left out of a list of the fields. -/
structure Field where
  name : String
  read : Reader
  absent : Option Value
  positional : Bool

namespace Field

def required (name : String) (read : Reader) : Field := ⟨name, read, none, false⟩

def withDefault (name : String) (read : Reader) (default : Value) : Field :=
  ⟨name, read, some default, true⟩

def optional (name : String) (read : Reader) : Field := ⟨name, maybe read, some .null, false⟩

end Field

/-- The fields in their order, or the first one that is missing. -/
def complete (place : Option Place) (got : Members) : List Field → Except ReadError Members
  | [] => .ok []
  | field :: rest =>
      match (got.get? field.name).or field.absent with
      | some value => (complete place got rest).map ((field.name, value) :: ·)
      | none => objectAt place (.missing field.name)

/-- Reads the members of an object; members that are no fields only have to be well-formed. -/
def recordFields (fields : List Field) (got : Members) : Entries → Except ReadError Members
  | .done after => complete after got fields
  | .broken e => .error (.ofSyntax e)
  | .more name after value rest =>
      match located name with
      | .error e => .error e
      | .ok key =>
          match fields.find? (·.name == key) with
          | none =>
              match located value.skipped with
              | .error e => .error (e.under (.member key))
              | .ok () => recordFields fields got rest
          | some field =>
              if (got.get? key).isSome then objectAt after (.duplicate key)
              else match field.read value with
                | .error e => .error (e.under (.member key))
                | .ok value => recordFields fields (got ++ [(key, value)]) rest

def elements (n : Nat) : String := if n = 1 then " element" else " elements"

def remaining : Items → Nat
  | .more _ _ rest => remaining rest + 1
  | _ => 0

def surplus (size : Nat) : Items → Except ReadError Members
  | .done _ => .ok []
  | .broken _ e => .error (.ofSyntax e)
  | .more (some e) _ _ => .error (.ofSyntax e)
  | .more none item rest =>
      objectAt none (.wrongLength (size + remaining (.more none item rest))
        "fewer elements in array")

def positionalFields (expected : String) (index : Nat) :
    List Field → Items → Except ReadError Members
  | [], items => surplus index items
  | field :: fields, items =>
      match items with
      | .done after =>
          match field.positional, field.absent with
          | true, some value =>
              (positionalFields expected (index + 1) fields items).map ((field.name, value) :: ·)
          | _, _ => objectAt after (.wrongLength index expected)
      | .broken e _ => .error (.ofSyntax e)
      | .more _ item rest =>
          match field.read item with
          | .error e => .error (e.under (.item index))
          | .ok value =>
              (positionalFields expected (index + 1) fields rest).map ((field.name, value) :: ·)

def record (title : String) (fields : List Field) : Reader := fun node =>
  let expected := "struct " ++ title
  match node.opened with
  | .object _ (some e) _ => .error (.ofSyntax e)
  | .object _ none entries => (recordFields fields [] entries).map .object
  | .array _ (some e) _ => .error (.ofSyntax e)
  | .array _ none items =>
      let size := expected ++ " with " ++ toString fields.length ++ elements fields.length
      (positionalFields size 0 fields items).map .object
  | other => other.unwanted expected

end Reader

def Value.read (read : Reader) (value : Value) : Except ReadError Value := read (.given value)

def readText (read : Reader) (cs : List Char) : Except ReadError Value :=
  (Document.ofChars cs).read read

namespace Members

def text (members : Members) (name : String) : String :=
  ((members.get? name).bind Value.text?).getD ""

def text? (members : Members) (name : String) : Option String :=
  (members.get? name).bind Value.text?

def flag (members : Members) (name : String) : Bool :=
  ((members.get? name).bind Value.flag?).getD false

def natural (members : Members) (name : String) : Nat :=
  ((members.get? name).bind Value.natural?).getD 0

def natural? (members : Members) (name : String) : Option Nat :=
  (members.get? name).bind Value.natural?

def items (members : Members) (name : String) : List Value :=
  ((members.get? name).bind Value.items?).getD []

def texts (members : Members) (name : String) : List String :=
  (members.items name).filterMap Value.text?

def inner (members : Members) (name : String) : Members :=
  ((members.get? name).bind Value.members?).getD []

end Members

end AccessGate.Json
