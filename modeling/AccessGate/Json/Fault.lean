import AccessGate.Text.Double

/-!
What can be wrong with a JSON text, and where it was noticed.
-/

namespace AccessGate.Json

/-- Lines count from one, columns are octets since the line began. -/
structure Place where
  line : Nat
  column : Nat
  deriving DecidableEq, Repr

inductive Fault where
  | endInList
  | endInObject
  | endInString
  | endInValue
  | colonExpected
  | listEndExpected
  | objectEndExpected
  | wordExpected
  | valueExpected
  | badEscape
  | badNumber
  | outOfRange
  | controlCharacter
  | keyNotText
  | loneSurrogate
  | trailingComma
  | trailingCharacters
  | escapeCutShort
  | tooDeep
  deriving DecidableEq, Repr

namespace Fault

def message : Fault → String
  | endInList => "EOF while parsing a list"
  | endInObject => "EOF while parsing an object"
  | endInString => "EOF while parsing a string"
  | endInValue => "EOF while parsing a value"
  | colonExpected => "expected `:`"
  | listEndExpected => "expected `,` or `]`"
  | objectEndExpected => "expected `,` or `\x7d`"
  | wordExpected => "expected ident"
  | valueExpected => "expected value"
  | badEscape => "invalid escape"
  | badNumber => "invalid number"
  | outOfRange => "number out of range"
  | controlCharacter => "control character (\\u0000-\\u001F) found while parsing a string"
  | keyNotText => "key must be a string"
  | loneSurrogate => "lone leading surrogate in hex escape"
  | trailingComma => "trailing comma"
  | trailingCharacters => "trailing characters"
  | escapeCutShort => "unexpected end of hex escape"
  | tooDeep => "recursion limit exceeded"

end Fault

structure SyntaxError where
  fault : Fault
  place : Place
  deriving DecidableEq, Repr

def Place.suffix (place : Place) : String :=
  " at line " ++ toString place.line ++ " column " ++ toString place.column

/-- A step from a container to what it holds. -/
inductive Step where
  | member (name : String)
  | item (index : Nat)
  deriving DecidableEq, Repr

/-- Members are joined by points, indices stand in brackets. -/
def pathText : List Step → String
  | [] => ""
  | .item index :: rest => "[" ++ toString index ++ "]" ++ pathText rest
  | .member name :: rest => "." ++ name ++ pathText rest

/-- What a reader can object to: a fault of the text, or a value that is none of its kind. -/
inductive Objection where
  | fault (fault : Fault)
  | wrongType (found expected : String)
  | wrongValue (found expected : String)
  | wrongLength (length : Nat) (expected : String)
  | missing (field : String)
  | duplicate (field : String)
  | unknownName (name : String) (known : List String)
  deriving DecidableEq, Repr

namespace Objection

def ticked (name : String) : String := "`" ++ name ++ "`"

def choices : List String → String
  | [only] => ticked only
  | [one, other] => ticked one ++ " or " ++ ticked other
  | names => "one of " ++ String.intercalate ", " (names.map ticked)

def message : Objection → String
  | fault f => f.message
  | wrongType found expected => "invalid type: " ++ found ++ ", expected " ++ expected
  | wrongValue found expected => "invalid value: " ++ found ++ ", expected " ++ expected
  | wrongLength length expected =>
      "invalid length " ++ toString length ++ ", expected " ++ expected
  | missing field => "missing field " ++ ticked field
  | duplicate field => "duplicate field " ++ ticked field
  | unknownName name known =>
      "unknown variant " ++ ticked name ++ ", expected " ++ choices known

end Objection

/-- Why a reader gave up: on the way to which part, and at which place of the text, if the value
was read from one. -/
structure ReadError where
  path : List Step
  objection : Objection
  place : Option Place
  deriving DecidableEq, Repr

namespace ReadError

def ofSyntax (e : SyntaxError) : ReadError := ⟨[], .fault e.fault, some e.place⟩

def under (step : Step) (e : ReadError) : ReadError := { e with path := step :: e.path }

def message (e : ReadError) : String :=
  e.objection.message ++ (e.place.map Place.suffix).getD ""

def messageWithPath (e : ReadError) : String :=
  match e.path with
  | [] => e.message
  | .member name :: rest => name ++ pathText rest ++ ": " ++ e.message
  | steps => pathText steps ++ ": " ++ e.message

def isSyntax (e : ReadError) : Bool :=
  match e.objection with
  | .fault _ => true
  | _ => false

end ReadError

end AccessGate.Json
