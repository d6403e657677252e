import AccessGate.Keys.Jwk

/-!
Signed tokens in their compact form: header, claims and signature, each in the digits of base 64 and
joined by points.
-/

namespace AccessGate

open Json

structure Token where
  header : Members
  claims : Members
  signature : Http.Octets
  deriving Inhabited, Repr

namespace Token

def segment (members : Members) : List Char :=
  Base64.encodeUrl (Utf8.encode (Value.object members).chars)

def signedText (header claims : Members) : List Char := segment header ++ '.' :: segment claims

def message (token : Token) : Http.Octets :=
  Utf8.encode (signedText token.header token.claims)

def chars (token : Token) : List Char :=
  signedText token.header token.claims ++ '.' :: Base64.encodeUrl token.signature

def render (token : Token) : String := String.ofList token.chars

/-- The header of a token. A key that has an identifier of its own insists on it. -/
def headerFor (keyId : String) (signer : Jwk.Signer) : Members :=
  [("kid", .string (signer.keyId.getD keyId)), ("alg", .string signer.algorithm.name),
   ("typ", .string "JWT")]

def issue (keyId : String) (signer : Jwk.Signer) (claims : Members) : Token :=
  let header := headerFor keyId signer
  ⟨header, claims, signer.signature (Utf8.encode (signedText header claims))⟩

def members? (part : List Char) : Option Members := do
  let octets ← Base64.decodeUrl? part
  let text ← Utf8.decode? octets
  match Json.parse text with
  | .ok value => value.members?
  | .error _ => none

def parse? (text : List Char) : Option Token :=
  match Text.pieces '.' text with
  | [header, claims, signature] => do
      let header ← members? header
      let claims ← members? claims
      let signature ← Base64.decodeUrl? signature
      pure ⟨header, claims, signature⟩
  | _ => none

def signedPart (text : List Char) : List Char :=
  ((text.reverse.dropWhile (· != '.')).drop 1).reverse

def verify? (key : Jwk) (algorithm : SigningAlgorithm) (text : List Char) : Option Token :=
  (parse? text).filter fun token =>
    key.verifies algorithm (Utf8.encode (signedPart text)) token.signature

/-! ## Claims -/

def checkClaim : String × Value → Except JoseError Unit
  | (name, value) =>
      let wrong := fun what =>
        Except.error (JoseError.badClaims ("The JWT " ++ name ++ " payload claim must be " ++ what))
      if name = "iss" ∨ name = "sub" ∨ name = "jti" then
        match value with
        | .string _ => .ok ()
        | _ => wrong "a string."
      else if name = "aud" then
        match value with
        | .string _ => .ok ()
        | .array items =>
            if items.all fun item => item.text?.isSome then .ok ()
            else .error (.badClaims
              ("An element of the JWT " ++ name ++ " payload claim must be a string."))
        | _ => wrong "a string or array."
      else if name = "exp" ∨ name = "nbf" ∨ name = "iat" then
        match value with
        | .number _ => .ok ()
        | _ => wrong "a string."
      else .ok ()

/-- The claims that stand for something have to be of the form for it. -/
def checkClaims (claims : Members) : Except JoseError Unit := claims.forM checkClaim

end Token

end AccessGate
