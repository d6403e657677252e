import AccessGate.Json.Reader

/-!
Rules as they are stored and exchanged: JSON records.
-/

namespace AccessGate

/-- How a request that a rule matches is authorized. -/
inductive RuleMode where
  /-- Anyone may pass; a token that is there says who. -/
  | publicAccess
  /-- Anyone may pass; tokens are ignored. -/
  | anonymous
  /-- Anyone may pass, and nothing is vouched for. -/
  | bypass
  /-- A token and the consent of the policy service are needed. -/
  | policy
  deriving DecidableEq, Repr, Inhabited

namespace RuleMode

def name : RuleMode → String
  | publicAccess => "public"
  | anonymous => "anonymous"
  | bypass => "bypass"
  | policy => "policy"

def all : List RuleMode := [publicAccess, anonymous, bypass, policy]

/-- The mode of a name; names that are none never get here. -/
def ofName (name : String) : RuleMode :=
  (all.find? (·.name == name)).getD policy

theorem ofName_name (mode : RuleMode) : ofName mode.name = mode := by
  cases mode <;> decide

end RuleMode

structure RuleSpec where
  id : String
  description : String
  methods : List String
  url : String
  mode : RuleMode
  action : String
  resource : String
  scopes : List String
  deriving DecidableEq, Repr, Inhabited

namespace RuleSpec

open Json
open Json.Reader

def matchFields : List Field :=
  [.withDefault "methods" (list string) (.array []),
   .required "url" string]

def matchReader : Reader := record "RuleMatchSpec" matchFields

def fields : List Field :=
  [.required "id" string,
   .withDefault "description" string (.string ""),
   .required "match" matchReader,
   .required "mode" (choice (RuleMode.all.map RuleMode.name)),
   .withDefault "required_action" string (.string ""),
   .withDefault "required_resource" string (.string ""),
   .withDefault "required_scopes" (list string) (.array [])]

def reader : Reader := record "RuleSpec" fields

def ofMembers (m : Members) : RuleSpec :=
  ⟨m.text "id", m.text "description", (m.inner "match").texts "methods",
    (m.inner "match").text "url", .ofName (m.text "mode"), m.text "required_action",
    m.text "required_resource", m.texts "required_scopes"⟩

def ofValue (value : Value) : RuleSpec := ofMembers (value.members?.getD [])

def toJson (spec : RuleSpec) : Value :=
  .object
    [("id", .string spec.id),
     ("description", .string spec.description),
     ("match", .object [("methods", .strings spec.methods), ("url", .string spec.url)]),
     ("mode", .string spec.mode.name),
     ("required_action", .string spec.action),
     ("required_resource", .string spec.resource),
     ("required_scopes", .strings spec.scopes)]

def decode (node : Node) : Except ReadError RuleSpec := (reader node).map ofValue

def listReader : Reader := list reader

def ofValues (value : Value) : List RuleSpec := (value.items?.getD []).map ofValue

def decodeList (node : Node) : Except ReadError (List RuleSpec) :=
  (listReader node).map ofValues

end RuleSpec

end AccessGate
