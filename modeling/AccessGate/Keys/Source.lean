import AccessGate.Http.Client
import AccessGate.Keys.Basic

/-!
Where signing keys come from: made in place, fetched from a key service as part of a key set, or
agreed on beforehand. A key set is asked for once more, by name, when it does not exist yet.
-/

namespace AccessGate

open Json

inductive KeySource where
  | made (bits : Nat) (id : String)
  | service (baseUrl set : String)
  | agreed (key : SigningKey)
  deriving Inhabited

namespace KeySource

def defaultId : String := "id-token:public"

def algorithm : KeySource → SigningAlgorithm
  | made _ _ => .rs256
  | service _ _ => .rs256
  | agreed key => key.algorithm

/-! ## Keys made in place -/

def maxBits : Nat := Nat.pow 2 32 - 1

def make (env : Environment σ) (bits : Nat) (id : String) :
    Action σ (Except KeyError SigningKey) := do
  if bits > maxBits then
    pure (.error (.refreshFailed ("unsupported key strength " ++ toString bits)))
  else match ← Rsa.generate env bits with
    | some key => pure (.ok (.ofPrivate (.ofRsa key) id))
    | none => pure (.error (.jose (.failure "Invalid key format: key size too small")))

/-! ## Key sets -/

def occurs (part : List Char) : List Char → Bool
  | [] => part.isEmpty
  | c :: rest => part.isPrefixOf (c :: rest) || occurs part rest

def privateMark : List Char := "private:".toList

def isMarkedPrivate (members : Members) : Bool :=
  match members.text? "kid" with
  | some id => occurs privateMark id.toList
  | none => false

def entries (body : Value) : List Members :=
  (((body.get? "keys").bind Value.items?).getD []).filterMap Value.members?

/-- The first key of a set that is marked private; it has to be a pair with its private part. -/
def privateKeyOf (body : Value) (set : String) : Except KeyError Jwk :=
  match (entries body).find? isMarkedPrivate with
  | none => .error (.noPrivateKey set)
  | some members =>
      match Jwk.ofMembers members with
      | .error e => .error (.jose e)
      | .ok key =>
          if key.kind ≠ "RSA" then .error (.wrongKind (key.id?.getD "") key.kind)
          else if key.hasMember "d" then .ok key
          else .error (.noPrivateKey set)

def keyOfSet (set : String) (body : Value) : Except KeyError SigningKey :=
  (privateKeyOf body set).map fun key => .ofPrivate key (set ++ ":public")

/-! ## The key service -/

def setUrl (baseUrl set : String) : String :=
  String.ofList (Text.dropEnd '/' baseUrl.toList) ++ "/keys/" ++ set

def failed (what url : String) (e : Http.SendError) : KeyError :=
  .refreshFailed (what ++ " " ++ url ++ ": " ++ e.message)

def creation : Value := .object [("alg", .string "RS256")]

def unexpected (doing set : String) (expected got : Nat) : KeyError :=
  .refreshFailed (doing ++ " key set " ++ set ++ ": expected status code " ++ toString expected ++
    " but got " ++ toString got)

/-- Asks for a key set, and for a new one when there is none. -/
def request (env : Environment σ) (baseUrl set : String) :
    Action σ (Except KeyError Http.Response) := do
  let url := setUrl baseUrl set
  match ← Http.fetch env (Http.Outgoing.ofText .get url) with
  | .error e => pure (.error (failed "GET" url e))
  | .ok response =>
      if response.status = 200 then pure (.ok response)
      else if response.status = 404 then
        match ← Http.fetch env ((Http.Outgoing.ofText .post url).map (·.withJson creation)) with
        | .error e => pure (.error (failed "POST" url e))
        | .ok created =>
            if created.status = 201 then pure (.ok created)
            else pure (.error (unexpected "creating" set 201 created.status))
      else pure (.error (unexpected "fetching" set 200 response.status))

def decode (set : String) (response : Http.Response) : Except KeyError SigningKey :=
  match response.decode? Node.value with
  | none =>
      .error (.refreshFailed ("decoding key set " ++ set ++ ": " ++ Http.Outgoing.undecodable))
  | some body => keyOfSet set body

def fetch (env : Environment σ) (baseUrl set : String) :
    Action σ (Except KeyError SigningKey) := do
  match ← request env baseUrl set with
  | .error e => pure (.error e)
  | .ok response => pure (decode set response)

def load (env : Environment σ) : KeySource → Action σ (Except KeyError SigningKey)
  | .made bits id => make env bits id
  | .service baseUrl set => fetch env baseUrl set
  | .agreed key => pure (.ok key)

end KeySource

end AccessGate
