import AccessGate.Json.Reader
import AccessGate.Keys.Rsa
import AccessGate.Text.Base64

/-!
Keys as JSON objects: what every such object has to look like, its public part, and the material
for signing and checking that a key of a known kind holds.
-/

namespace AccessGate

open Json

inductive JoseError where
  | badObject (reason : String)
  | badKey (reason : String)
  | badClaims (reason : String)
  /-- The arithmetic underneath gave up. -/
  | failure (reason : String)
  deriving DecidableEq, Repr

namespace JoseError

def message : JoseError → String
  | badObject reason => "Invalid JWS format: " ++ reason
  | badKey reason => "Invalid key format: " ++ reason
  | badClaims reason => "Invalid JWT format: " ++ reason
  | failure reason => reason

end JoseError

inductive SigningAlgorithm where
  | rs256
  | hs256
  deriving DecidableEq, Repr, Inhabited

namespace SigningAlgorithm

def name : SigningAlgorithm → String
  | rs256 => "RS256"
  | hs256 => "HS256"

def isSymmetric : SigningAlgorithm → Bool
  | rs256 => false
  | hs256 => true

def keyKind : SigningAlgorithm → String
  | rs256 => "RSA"
  | hs256 => "oct"

end SigningAlgorithm

structure Jwk where
  members : Members
  deriving Inhabited, Repr

namespace Jwk

def text? (key : Jwk) (name : String) : Option String := key.members.text? name

def kind (key : Jwk) : String := (key.text? "kty").getD ""

def id? (key : Jwk) : Option String := key.text? "kid"

def hasMember (key : Jwk) (name : String) : Bool := (key.members.get? name).isSome

/-! ## Objects that are keys -/

def textNames : List String := ["kty", "use", "alg", "kid", "crv", "x5u"]

def octetNames : List String :=
  ["x5t", "x5t#S256", "k", "d", "p", "q", "dp", "dq", "qi", "x", "y"]

def aboutMember (name what : String) : JoseError :=
  .badObject ("The JWK " ++ name ++ " parameter must be " ++ what)

def isOctetText (s : String) : Bool := (Base64.decodeUrl? s.toList).isSome

def checkItems (name : String) (test : String → Bool) (what : String) :
    List Value → Except JoseError Unit
  | [] => .ok ()
  | .string s :: rest =>
      if test s then checkItems name test what rest
      else .error (.badObject ("An element of the JWK " ++ name ++ " parameter must be " ++ what))
  | _ :: _ =>
      .error (.badObject ("An element of the JWK " ++ name ++ " parameter must be a string."))

def checkMember : String × Value → Except JoseError Unit
  | (name, value) =>
      if textNames.contains name then
        match value with
        | .string _ => .ok ()
        | _ => .error (aboutMember name "a string.")
      else if octetNames.contains name then
        match value with
        | .string s =>
            if isOctetText s then .ok () else .error (aboutMember name "a base64 string.")
        | _ => .error (aboutMember name "a string.")
      else if name = "key_ops" ∨ name = "x5c" then
        match value with
        | .array items =>
            checkItems name (fun s => name = "key_ops" || isOctetText s) "a base64 string." items
        | _ => .error (aboutMember name "a array.")
      else .ok ()

/-- An object is a key when its members have the forms that their names ask for and it says of
which kind it is. -/
def ofMembers (members : Members) : Except JoseError Jwk := do
  members.forM checkMember
  if (members.get? "kty").isSome then .ok ⟨members⟩
  else .error (.badObject "The JWK kty parameter is required.")

/-! ## Public parts -/

def privateNames : List String := ["d", "p", "q", "dp", "dq", "qi", "oth"]

def withoutPrivate (key : Jwk) : Jwk :=
  ⟨key.members.filter fun member => !privateNames.contains member.1⟩

def withText (key : Jwk) (name text : String) : Jwk := ⟨key.members.insert name (.string text)⟩

/-- How a key is labelled: its identifier, its algorithm, and that it is for signatures. -/
def labelled (key : Jwk) (id : String) (algorithm : SigningAlgorithm) : Jwk :=
  ((key.withText "kid" id).withText "alg" algorithm.name).withText "use" "sig"

/-! ## Keys of a kind -/

def numberText (n : Nat) : Value :=
  .string (String.ofList (Base64.encodeUrl (Rsa.octetsOf (Rsa.width n) n)))

def ofRsa (key : Rsa.PrivateKey) : Jwk :=
  ⟨[("kty", .string "RSA"), ("n", numberText key.modulus), ("e", numberText key.publicExponent),
    ("d", numberText key.privateExponent), ("p", numberText key.p), ("q", numberText key.q),
    ("dp", numberText key.dp), ("dq", numberText key.dq), ("qi", numberText key.qi)]⟩

def ofSecret (secret : Http.Octets) : Jwk :=
  ⟨[("kty", .string "oct"), ("k", .string (String.ofList (Base64.encodeUrl secret)))]⟩

def octets (key : Jwk) (name : String) : Except JoseError Http.Octets :=
  match key.members.get? name with
  | none => .error (.badKey ("A parameter " ++ name ++ " is required."))
  | some (.string s) =>
      match Base64.decodeUrl? s.toList with
      | some octets => .ok octets
      | none => .error (.badKey ("A parameter " ++ name ++ " must be a base64 string."))
  | some _ => .error (.badKey ("A parameter " ++ name ++ " must be a string."))

def number (key : Jwk) (name : String) : Except JoseError Nat :=
  (key.octets name).map Rsa.numberOf

def rsaKey (key : Jwk) : Except JoseError Rsa.PrivateKey := do
  let n ← key.number "n"
  let e ← key.number "e"
  let d ← key.number "d"
  let p ← key.number "p"
  let q ← key.number "q"
  let dp ← key.number "dp"
  let dq ← key.number "dq"
  let qi ← key.number "qi"
  pure ⟨n, e, d, p, q, dp, dq, qi⟩

/-! ## Signing -/

/-- A key that is known to be fit for signing; it may insist on its own identifier. -/
structure Signer where
  algorithm : SigningAlgorithm
  keyId : Option String
  signature : Http.Octets → Http.Octets

/-- Whether the key is meant to be used like this: operations that are not listed at all are all
allowed. -/
def allows (key : Jwk) (operation : String) : Bool :=
  match key.members.get? "key_ops" with
  | some (.array operations) => (operations.filterMap Value.text?).contains operation
  | _ => true

def checkUse (key : Jwk) : Except JoseError Unit :=
  match key.text? "use" with
  | some use =>
      if use = "sig" then .ok () else .error (.badKey ("A parameter use must be sig: " ++ use))
  | none => .ok ()

def checkOperations (key : Jwk) : Except JoseError Unit :=
  if key.allows "sign" then .ok ()
  else .error (.badKey "A parameter key_ops must contains sign.")

def checkAlgorithm (key : Jwk) (algorithm : SigningAlgorithm) : Except JoseError Unit :=
  match key.text? "alg" with
  | some alg =>
      if alg = algorithm.name then .ok ()
      else .error (.badKey ("A parameter alg must be " ++ algorithm.name ++ " but " ++ alg))
  | none => .ok ()

def checkKind (key : Jwk) (algorithm : SigningAlgorithm) : Except JoseError Unit :=
  if key.kind = algorithm.keyKind then .ok ()
  else .error (.badKey ("A parameter kty must be " ++ algorithm.keyKind ++ ": " ++ key.kind))

def minModulusOctets : Nat := 256

def rsaSignature (key : Jwk) : Except JoseError (Http.Octets → Http.Octets) := do
  let numbers ← key.rsaKey
  if Rsa.width numbers.modulus < minModulusOctets then
    .error (.badKey "key length must be 2048 or more.")
  else match numbers.signer? with
    | some sign => pure sign
    | none => .error (.failure "no inverse")

/-- What signs with a key; labels that speak against it are minded first. -/
def signer (key : Jwk) (algorithm : SigningAlgorithm) : Except JoseError Signer := do
  key.checkUse
  key.checkOperations
  key.checkAlgorithm algorithm
  key.checkKind algorithm
  match algorithm with
  | .rs256 => (key.rsaSignature).map fun signature => ⟨.rs256, key.id?, signature⟩
  | .hs256 => (key.octets "k").map fun secret => ⟨.hs256, key.id?, Sha256.authenticate secret⟩

def verifies (key : Jwk) (algorithm : SigningAlgorithm) (message signature : Http.Octets) : Bool :=
  match algorithm with
  | .rs256 =>
      match key.number "n", key.number "e" with
      | .ok n, .ok e => Rsa.verifies n e message signature
      | _, _ => false
  | .hs256 =>
      match key.octets "k" with
      | .ok secret => Sha256.authenticate secret message == signature
      | .error _ => false

end Jwk

end AccessGate
