import AccessGate.Json.Value
import AccessGate.Policy.Client
import AccessGate.Refresh

/-!
Everything that can be configured, section by section, with its defaults.
-/

namespace AccessGate

open Json

structure ServerSettings where
  host : String
  proxyPort : Nat
  apiPort : Nat
  deriving DecidableEq, Repr, Inhabited

inductive StoreKind where
  | memory
  | file
  | http
  deriving DecidableEq, Repr, Inhabited

namespace StoreKind

def name : StoreKind → String
  | memory => "memory"
  | file => "file"
  | http => "http"

def all : List StoreKind := [memory, file, http]

def ofName (name : String) : StoreKind := (all.find? (·.name == name)).getD file

end StoreKind

structure RuleSettings where
  store : StoreKind
  path : Option String
  url : Option String
  refreshSeconds : Nat
  deriving DecidableEq, Repr, Inhabited

structure PolicySettings where
  endpoints : PolicyClient.Endpoints
  timeoutSeconds : Nat
  deriving DecidableEq, Repr

/-- Where signing keys are to come from. -/
inductive KeyChoice where
  | rs256
  | remote
  | hs256
  deriving DecidableEq, Repr, Inhabited

namespace KeyChoice

def name : KeyChoice → String
  | rs256 => "rs256"
  | remote => "remote"
  | hs256 => "hs256"

def all : List KeyChoice := [rs256, remote, hs256]

def ofName (name : String) : KeyChoice := (all.find? (·.name == name)).getD rs256

end KeyChoice

structure KeySettings where
  choice : KeyChoice
  bits : Nat
  id : Option String
  remoteUrl : Option String
  set : String
  secret : Option String
  refreshSeconds : Nat
  deriving DecidableEq, Repr, Inhabited

structure CredentialSettings where
  issuer : String
  lifespanSeconds : Nat
  deriving DecidableEq, Repr, Inhabited

structure CorsSettings where
  enabled : Bool
  origins : List String
  methods : List String
  headers : List String
  credentials : Bool
  maxAgeSeconds : Option Nat
  deriving DecidableEq, Repr, Inhabited

structure Settings where
  server : ServerSettings
  backendUrl : String
  rules : RuleSettings
  policy : PolicySettings
  keys : KeySettings
  credentials : CredentialSettings
  cors : CorsSettings
  deriving DecidableEq, Repr

namespace Settings

def default : Settings where
  server := ⟨"0.0.0.0", 4455, 4456⟩
  backendUrl := "http://127.0.0.1:8000"
  rules := ⟨.file, some "rules.json", none, 30⟩
  policy := ⟨⟨none, none, none⟩, 5⟩
  keys := ⟨.rs256, 4096, none, none, "portcullis:id-token", none, 300⟩
  credentials := ⟨"http://127.0.0.1:4455", 3600⟩
  cors := ⟨false, [], [], [], false, none⟩

def address (host : String) (port : Nat) : String := host ++ ":" ++ toString port

def proxyAddress (s : Settings) : String := address s.server.host s.server.proxyPort

def apiAddress (s : Settings) : String := address s.server.host s.server.apiPort

/-- Refreshing never comes closer than every second. -/
def interval (seconds : Nat) : Duration := .ofSeconds (max seconds 1)

def ruleInterval (s : Settings) : Duration := interval s.rules.refreshSeconds

def keyInterval (s : Settings) : Duration := interval s.keys.refreshSeconds

def natural? : Option Nat → Value
  | some n => .ofNat n
  | none => .null

def toJson (s : Settings) : Value :=
  .object
    [("server", .object
        [("host", .string s.server.host), ("proxy_port", .ofNat s.server.proxyPort),
         ("api_port", .ofNat s.server.apiPort)]),
     ("backend", .object [("url", .string s.backendUrl)]),
     ("rules", .object
        [("store", .string s.rules.store.name), ("path", .ofOption s.rules.path),
         ("url", .ofOption s.rules.url), ("refresh_interval_secs", .ofNat s.rules.refreshSeconds)]),
     ("policy", .object
        [("introspection_url", .ofOption s.policy.endpoints.introspectionUrl),
         ("authorization_url", .ofOption s.policy.endpoints.authorizationUrl),
         ("service_token", .ofOption s.policy.endpoints.serviceToken),
         ("timeout_secs", .ofNat s.policy.timeoutSeconds)]),
     ("keys", .object
        [("algorithm", .string s.keys.choice.name), ("key_strength", .ofNat s.keys.bits),
         ("key_id", .ofOption s.keys.id), ("remote_url", .ofOption s.keys.remoteUrl),
         ("set_id", .string s.keys.set), ("shared_secret", .ofOption s.keys.secret),
         ("refresh_interval_secs", .ofNat s.keys.refreshSeconds)]),
     ("credentials", .object
        [("issuer", .string s.credentials.issuer),
         ("lifespan_secs", .ofNat s.credentials.lifespanSeconds)]),
     ("cors", .object
        [("enabled", .bool s.cors.enabled), ("allowed_origins", .strings s.cors.origins),
         ("allowed_methods", .strings s.cors.methods), ("allowed_headers", .strings s.cors.headers),
         ("allow_credentials", .bool s.cors.credentials),
         ("max_age_secs", natural? s.cors.maxAgeSeconds)])]

/-! ## From the full record -/

def serverOf (m : Members) : ServerSettings :=
  ⟨m.text "host", m.natural "proxy_port", m.natural "api_port"⟩

def rulesOf (m : Members) : RuleSettings :=
  ⟨.ofName (m.text "store"), m.text? "path", m.text? "url", m.natural "refresh_interval_secs"⟩

def policyOf (m : Members) : PolicySettings :=
  ⟨⟨m.text? "introspection_url", m.text? "authorization_url", m.text? "service_token"⟩,
    m.natural "timeout_secs"⟩

def keysOf (m : Members) : KeySettings :=
  ⟨.ofName (m.text "algorithm"), m.natural "key_strength", m.text? "key_id", m.text? "remote_url",
    m.text "set_id", m.text? "shared_secret", m.natural "refresh_interval_secs"⟩

def credentialsOf (m : Members) : CredentialSettings :=
  ⟨m.text "issuer", m.natural "lifespan_secs"⟩

def corsOf (m : Members) : CorsSettings :=
  ⟨m.flag "enabled", m.texts "allowed_origins", m.texts "allowed_methods",
    m.texts "allowed_headers", m.flag "allow_credentials", m.natural? "max_age_secs"⟩

def ofMembers (m : Members) : Settings where
  server := serverOf (m.inner "server")
  backendUrl := (m.inner "backend").text "url"
  rules := rulesOf (m.inner "rules")
  policy := policyOf (m.inner "policy")
  keys := keysOf (m.inner "keys")
  credentials := credentialsOf (m.inner "credentials")
  cors := corsOf (m.inner "cors")

end Settings

end AccessGate
