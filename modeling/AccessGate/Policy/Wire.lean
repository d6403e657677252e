import AccessGate.Json.Reader

/-!
What the policy service is asked and what it answers, as JSON records. An answer has to say whether
a token is active or a request allowed; everything else in it may be left out.
-/

namespace AccessGate

open Json
open Json.Reader

/-- May the holder of a token do something. -/
structure AccessQuery where
  action : String
  resource : String
  scopes : List String
  token : String
  context : Members
  deriving Inhabited, Repr

namespace AccessQuery

def fields : List Field :=
  [.required "action" string,
   .required "resource" string,
   .withDefault "scopes" (list string) (.array []),
   .required "token" string,
   .withDefault "context" members (.object [])]

def reader : Reader := record "AccessRequest" fields

def ofMembers (m : Members) : AccessQuery :=
  ⟨m.text "action", m.text "resource", m.texts "scopes", m.text "token", m.inner "context"⟩

def toJson (query : AccessQuery) : Value :=
  .object
    [("action", .string query.action),
     ("resource", .string query.resource),
     ("scopes", .strings query.scopes),
     ("token", .string query.token),
     ("context", .object query.context)]

def decode (node : Node) : Except ReadError AccessQuery :=
  (reader node).map fun value => ofMembers (value.members?.getD [])

end AccessQuery

/-- Whether a token is active, and whose it is. -/
structure Introspection where
  active : Bool
  subject : String
  clientId : String
  scope : String
  extra : Members
  deriving Inhabited, Repr

namespace Introspection

def fields : List Field :=
  [.required "active" flag,
   .withDefault "sub" string (.string ""),
   .withDefault "client_id" string (.string ""),
   .withDefault "scope" string (.string ""),
   .withDefault "ext" members (.object [])]

def reader : Reader := record "Introspection" fields

def ofMembers (m : Members) : Introspection :=
  ⟨m.flag "active", m.text "sub", m.text "client_id", m.text "scope", m.inner "ext"⟩

def toJson (i : Introspection) : Value :=
  .object
    [("active", .bool i.active),
     ("sub", .string i.subject),
     ("client_id", .string i.clientId),
     ("scope", .string i.scope),
     ("ext", .object i.extra)]

def decode (node : Node) : Except ReadError Introspection :=
  (reader node).map fun value => ofMembers (value.members?.getD [])

end Introspection

/-- Whether a request is allowed, and to whom. -/
structure Authorization where
  allowed : Bool
  subject : String
  clientId : String
  extra : Members
  deriving Inhabited, Repr

namespace Authorization

def fields : List Field :=
  [.required "allowed" flag,
   .withDefault "subject" string (.string ""),
   .withDefault "client_id" string (.string ""),
   .withDefault "ext" members (.object [])]

def reader : Reader := record "Authorization" fields

def ofMembers (m : Members) : Authorization :=
  ⟨m.flag "allowed", m.text "subject", m.text "client_id", m.inner "ext"⟩

def toJson (a : Authorization) : Value :=
  .object
    [("allowed", .bool a.allowed),
     ("subject", .string a.subject),
     ("client_id", .string a.clientId),
     ("ext", .object a.extra)]

def decode (node : Node) : Except ReadError Authorization :=
  (reader node).map fun value => ofMembers (value.members?.getD [])

end Authorization

end AccessGate
