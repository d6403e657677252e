import AccessGate.Environment
import AccessGate.SetupError
import AccessGate.Settings.Basic

/-!
Which scripts of other origins may use the proxy: a checked policy, and what it adds to answers.
Every request with the method for asking beforehand is answered in place.
-/

namespace AccessGate

open Text (upper)

inductive AllowedOrigins where
  | any
  | only (origins : List Http.Octets)
  deriving DecidableEq, Repr

structure CorsPolicy where
  origins : AllowedOrigins
  methods : List Http.Method
  headers : List String
  credentials : Bool
  maxAgeSeconds : Option Nat
  deriving DecidableEq, Repr

namespace CorsPolicy

def defaultMethods : List Http.Method := [.get, .post, .put, .patch, .delete]

def bad (setting reason : String) : SetupError := .badSettings ("cors." ++ setting ++ reason)

def originsOf (s : CorsSettings) : Except SetupError AllowedOrigins :=
  if s.origins.contains "*" ∨ s.origins.isEmpty then .ok .any
  else match s.origins.mapM Http.fieldText? with
    | some origins => .ok (.only origins)
    | none => .error (bad "allowed_origins" ": failed to parse header value")

def methodsOf (s : CorsSettings) : Except SetupError (List Http.Method) :=
  if s.methods.isEmpty then .ok defaultMethods
  else match s.methods.mapM fun name => Http.Method.ofText? (String.ofList (upper name.toList)) with
    | some methods => .ok methods
    | none => .error (bad "allowed_methods" ": invalid HTTP method")

def headersOf (s : CorsSettings) : Except SetupError (List String) :=
  match s.headers.mapM fun name => Http.fieldName? name.toList with
  | some names => .ok names
  | none => .error (bad "allowed_headers" ": invalid HTTP header name")

def ofSettings (s : CorsSettings) : Except SetupError CorsPolicy :=
  if s.origins.contains "*" ∧ s.credentials then
    .error (bad "allow_credentials" " cannot be combined with a wildcard origin")
  else do
    let origins ← originsOf s
    let methods ← methodsOf s
    let headers ← headersOf s
    pure ⟨origins, methods, headers, s.credentials, s.maxAgeSeconds⟩

def isStar (names : List String) : Bool := names == ["*"]

/-- Credentials go together with lists only, not with the sign for all. -/
def isUsable (policy : CorsPolicy) : Bool :=
  !policy.credentials || (policy.origins != .any && !isStar (policy.methods.map Http.Method.name) &&
    !isStar policy.headers)

/-- The policy for use in answers; one that is not usable ends it all. -/
def inUse (policy : CorsPolicy) : Except Crash CorsPolicy :=
  if policy.isUsable then .ok policy else .error .credentialsForAll

/-! ## Answers -/

def octets (s : String) : Http.Octets := Utf8.encode s.toList

def star : Http.Octets := octets "*"

/-- The origin that an answer names: any, or the one that asks when it is allowed. -/
def originField (policy : CorsPolicy) (request : Http.Headers) : Http.Headers :=
  match policy.origins, request.get? "origin" with
  | .any, _ => [("access-control-allow-origin", star)]
  | .only origins, some origin =>
      if origins.contains origin then [("access-control-allow-origin", origin)] else []
  | .only _, none => []

def credentialsField (policy : CorsPolicy) : Http.Headers :=
  if policy.credentials then [("access-control-allow-credentials", octets "true")] else []

def varyField : Http.Headers :=
  [("vary", octets "origin, access-control-request-method, access-control-request-headers")]

def methodsField (policy : CorsPolicy) : Http.Headers :=
  [("access-control-allow-methods",
    octets (String.intercalate "," (policy.methods.map Http.Method.name)))]

def headersField (policy : CorsPolicy) : Http.Headers :=
  if policy.headers.isEmpty then []
  else [("access-control-allow-headers", octets (String.intercalate "," policy.headers))]

def maxAgeField (policy : CorsPolicy) : Http.Headers :=
  match policy.maxAgeSeconds with
  | some seconds => [("access-control-max-age", octets (toString seconds))]
  | none => []

/-- The answer to a request that asks beforehand. -/
def preflight (policy : CorsPolicy) (request : Http.Headers) : Http.Response :=
  ⟨200, policy.originField request ++ policy.credentialsField ++ varyField ++ policy.methodsField ++
    policy.headersField ++ policy.maxAgeField, []⟩

/-- The fields that every other answer gets; they replace those of the same names, but for the one
that answers hang on, which is added. -/
def annotate (policy : CorsPolicy) (request : Http.Headers) (response : Http.Response) :
    Http.Response :=
  let added := policy.originField request ++ policy.credentialsField
  let kept := response.headers.filter fun field => !added.contains field.1
  { response with headers := kept ++ added ++ varyField }

end CorsPolicy

end AccessGate
