import AccessGate.Diagnostic
import AccessGate.Keys.Token

/-!
Signing keys: one key is held as a whole, with the public part that others check its signatures
with.
-/

namespace AccessGate

inductive KeyError where
  | refreshFailed (reason : String)
  | noPrivateKey (set : String)
  | wrongKind (id found : String)
  | jose (cause : JoseError)
  deriving DecidableEq, Repr

namespace KeyError

def message : KeyError → String
  | refreshFailed reason => "Refreshing signing keys failed: " ++ reason
  | noPrivateKey set => "Key set \x60" ++ set ++ "\x60 does not contain a private key"
  | wrongKind id found =>
      "Key \x60" ++ id ++ "\x60 has type \x60" ++ found ++ "\x60, expected \x60RSA\x60"
  | jose cause => "JOSE error: " ++ cause.message

def diagnostic : KeyError → Diagnostic
  | refreshFailed _ =>
      .withHelp "keys::refresh_failed"
        "The previously loaded key stays in use until a refresh succeeds"
  | noPrivateKey _ =>
      .withHelp "keys::no_private_key"
        "The key service must return a JWK whose \x60kid\x60 contains \x60private:\x60"
  | wrongKind _ _ => .plain "keys::wrong_key_type"
  | jose _ => .plain "keys::jose"

end KeyError

structure SigningKey where
  id : String
  algorithm : SigningAlgorithm
  privateKey : Jwk
  /-- What signatures are checked with; the secret itself where there is but one. -/
  publicKey : Jwk
  deriving Inhabited, Repr

namespace SigningKey

def ofPrivate (privateKey : Jwk) (id : String) : SigningKey :=
  ⟨id, .rs256, privateKey, privateKey.withoutPrivate.labelled id .rs256⟩

def ofSecret (secret : Http.Octets) (id : String) : SigningKey :=
  let key := (Jwk.ofSecret secret).labelled id .hs256
  ⟨id, .hs256, key, key⟩

def sign (key : SigningKey) (claims : Json.Members) : Except KeyError Token :=
  match key.privateKey.signer key.algorithm with
  | .ok signer => .ok (Token.issue key.id signer claims)
  | .error e => .error (.jose e)

end SigningKey

end AccessGate
