import AccessGate.Keys.Source
import AccessGate.Session

/-!
The holder of the current signing key. A key is loaded on first use and replaced as a whole by a
refresh; when loading fails, the key that was there stays.
-/

namespace AccessGate

open Json

structure KeyManager where
  source : KeySource
  current : Option SigningKey
  deriving Inhabited

abbrev KeyAction (σ : Type) := StateT KeyManager (Action σ)

namespace KeyManager

def ofSource (source : KeySource) : KeyManager := ⟨source, none⟩

def minSecretOctets : Nat := 32

def ofSecret (env : Environment σ) (secret : Http.Octets) :
    Action σ (Except String KeyManager) := do
  if secret.length < minSecretOctets then
    pure (.error ("the shared secret must be at least " ++ toString minSecretOctets ++
      " bytes long, got " ++ toString secret.length))
  else
    let octets ← env.octets 16
    pure (.ok (ofSource (.agreed (.ofSecret secret (uuidText octets)))))

def algorithm (manager : KeyManager) : SigningAlgorithm := manager.source.algorithm

end KeyManager

namespace KeyAction

/-- Puts what was loaded into place; a failure changes nothing. -/
def install (loaded : Except KeyError SigningKey) : KeyAction σ (Except KeyError SigningKey) :=
  fun manager =>
    match loaded with
    | .ok key => pure (.ok key, { manager with current := some key })
    | .error e => pure (.error e, manager)

def reload (env : Environment σ) : KeyAction σ (Except KeyError SigningKey) := do
  install (← (← get).source.load env)

def refresh (env : Environment σ) : KeyAction σ (Except KeyError Unit) := do
  return (← reload env).map fun _ => ()

def signingKey (env : Environment σ) : KeyAction σ (Except KeyError SigningKey) := do
  match (← get).current with
  | some key => pure (.ok key)
  | none => reload env

def publicKey (env : Environment σ) : KeyAction σ (Except KeyError Jwk) := do
  return (← signingKey env).map (·.publicKey)

def keyId (env : Environment σ) : KeyAction σ (Except KeyError String) := do
  return (← signingKey env).map (·.id)

/-- The keys that others may check tokens with; there are none for a shared secret. -/
def published (env : Environment σ) : KeyAction σ (Except KeyError (List Jwk)) := do
  if (← get).algorithm.isSymmetric then pure (.ok [])
  else return (← publicKey env).map fun key => [key]

def keySet (keys : List Jwk) : Value :=
  .object [("keys", .array (keys.map fun key => .object key.members))]

def sign (env : Environment σ) (claims : Members) : KeyAction σ (Except KeyError Token) := do
  return (← signingKey env).bind (·.sign claims)

end KeyAction

end AccessGate
