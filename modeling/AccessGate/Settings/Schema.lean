import AccessGate.Json.Reader
import AccessGate.Settings.Basic

/-!
Which settings there are in which section, and of which kind each is. From this one table settings
are read, whatever they are written in.
-/

namespace AccessGate.Settings

open Json

/-- The kinds of settings. A choice has a title and its names. -/
inductive Kind where
  | text
  | path
  | natural (expected : String) (largest : Nat)
  | flag
  | texts
  | choice (title : String) (names : List String)
  deriving DecidableEq, Repr

/-- A setting. One that may be missing is null, or has a value that stands for it. -/
structure Entry where
  name : String
  kind : Kind
  isOptional : Bool
  absent : Option Value

structure Section where
  name : String
  title : String
  entries : List Entry
  mayBeAbsent : Bool

def required (name : String) (kind : Kind) : Entry := ⟨name, kind, false, none⟩

def optional (name : String) (kind : Kind) : Entry := ⟨name, kind, true, none⟩

def port : Kind := .natural "u16" 65535

def size : Kind := .natural "usize" (Nat.pow 2 64 - 1)

def number : Kind := .natural "u64" (Nat.pow 2 64 - 1)

def corsSection : Section :=
  ⟨"cors", "Cors",
    [⟨"enabled", .flag, false, some (.bool false)⟩,
     ⟨"allowed_origins", .texts, false, some (.array [])⟩,
     ⟨"allowed_methods", .texts, false, some (.array [])⟩,
     ⟨"allowed_headers", .texts, false, some (.array [])⟩,
     ⟨"allow_credentials", .flag, false, some (.bool false)⟩,
     ⟨"max_age_secs", number, true, some .null⟩], true⟩

def keysSection : Section :=
  ⟨"keys", "Keys",
    [required "algorithm" (.choice "KeyAlgorithm" (KeyChoice.all.map KeyChoice.name)),
     required "key_strength" size, optional "key_id" .text, optional "remote_url" .text,
     required "set_id" .text, optional "shared_secret" .text,
     required "refresh_interval_secs" number], false⟩

def schema : List Section :=
  [⟨"server", "Server",
      [required "host" .text, required "proxy_port" port, required "api_port" port], false⟩,
   ⟨"backend", "Backend", [required "url" .text], false⟩,
   ⟨"rules", "Rules",
      [required "store" (.choice "RuleStoreKind" (StoreKind.all.map StoreKind.name)),
       optional "path" .path, optional "url" .text, required "refresh_interval_secs" number],
      false⟩,
   ⟨"policy", "Policy",
      [optional "introspection_url" .text, optional "authorization_url" .text,
       optional "service_token" .text, required "timeout_secs" number], false⟩,
   keysSection,
   ⟨"credentials", "Credentials",
      [required "issuer" .text, required "lifespan_secs" number], false⟩,
   corsSection]

/-! ## Reading from JSON -/

def Kind.reader : Kind → Reader
  | .text => Reader.string
  | .path => Reader.text "path string"
  | .natural expected largest => Reader.natural expected largest
  | .flag => Reader.flag
  | .texts => Reader.list Reader.string
  | .choice _ names => Reader.choice names

def Entry.field (entry : Entry) : Reader.Field :=
  match entry.isOptional, entry.absent with
  | false, none => .required entry.name entry.kind.reader
  | true, none => .optional entry.name entry.kind.reader
  | false, some value => .withDefault entry.name entry.kind.reader value
  | true, some value => .withDefault entry.name (Reader.maybe entry.kind.reader) value

def Section.reader (s : Section) : Reader := Reader.record s.title (s.entries.map Entry.field)

def Section.absent (s : Section) : Value :=
  .object (s.entries.map fun entry => (entry.name, entry.absent.getD .null))

def Section.field (s : Section) : Reader.Field :=
  if s.mayBeAbsent then .withDefault s.name s.reader s.absent else .required s.name s.reader

def reader : Reader := Reader.record "Settings" (schema.map Section.field)

mutual

/-- One value laid over another: objects are joined member by member, anything else is replaced. -/
def overlay (base layer : Value) : Value :=
  match base, layer with
  | .object old, .object new => .object (overlayMembers old new)
  | _, layer => layer

def overlayMembers (old : Members) : Members → Members
  | [] => old
  | (name, value) :: rest =>
      let joined := match old.get? name with
        | some before => overlay before value
        | none => value
      overlayMembers (old.insert name joined) rest

end

def ofJson (value : Value) : Except ReadError Settings :=
  ((overlay default.toJson value).read reader).map fun full => ofMembers (full.members?.getD [])

end AccessGate.Settings
