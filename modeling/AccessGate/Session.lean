import AccessGate.Environment
import AccessGate.Json.Value

/-!
Who a caller turned out to be, and the claims of the credential that says so.
-/

namespace AccessGate

open Json

structure Session where
  subject : String
  clientId : String
  isAnonymous : Bool
  /-- No credential is minted for these. -/
  isBypassed : Bool
  extra : Members
  deriving Inhabited, Repr

namespace Session

def anonymous : Session := ⟨"", "", true, false, []⟩

def bypassed : Session := ⟨"", "", true, true, []⟩

def authenticated (subject clientId : String) : Session := ⟨subject, clientId, false, false, []⟩

end Session

def uuidText (octets : List UInt8) : String :=
  let at_ := fun i => (octets.getD i 0).toNat
  let hex := fun n : Nat => [Text.hexDigit (n / 16), Text.hexDigit (n % 16)]
  let octet := fun i =>
    if i = 6 then 0x40 + at_ i % 16 else if i = 8 then 0x80 + at_ i % 64 else at_ i
  let part := fun first count => (List.range count).flatMap fun i => hex (octet (first + i))
  String.ofList
    (part 0 4 ++ '-' :: part 4 2 ++ '-' :: part 6 2 ++ '-' :: part 8 2 ++ '-' :: part 10 6)

/-- The claims of a credential, in their order. -/
structure Claims where
  issuer : String
  subject : String
  audience : Option String
  issuedAt : Instant
  expiresAt : Instant
  id : String
  isAnonymous : Bool
  extra : Members
  deriving Inhabited, Repr

namespace Claims

/-- Seconds with a fraction, rounded once for the nanoseconds and once for the sum. -/
def seconds (t : Instant) : Value :=
  .number (.real (.ofFloat (Float.ofNat t.seconds + Float.ofNat t.nanos.val / 1e9)))

def toMembers (c : Claims) : Members :=
  [("iss", .string c.issuer), ("sub", .string c.subject)] ++
    (c.audience.map fun name => ("aud", Value.string name)).toList ++
    [("iat", seconds c.issuedAt), ("nbf", seconds c.issuedAt), ("exp", seconds c.expiresAt),
     ("jti", .string c.id), ("anon", .bool c.isAnonymous), ("ext", .object c.extra)]

end Claims

namespace Session

def claimsAt (session : Session) (issuer : String) (lifespan : Duration) (now : Instant) (id : String) :
    Except Crash Claims :=
  (now.after lifespan).map fun expiry =>
    ⟨issuer, session.subject, if session.clientId = "" then none else some session.clientId, now,
      expiry, id, session.isAnonymous, session.extra⟩

def claims (env : Environment σ) (session : Session) (issuer : String) (lifespan : Duration) :
    Action σ Claims := do
  let now ← env.instant
  let octets ← env.octets 16
  fun s => (session.claimsAt issuer lifespan now (uuidText octets)).map (·, s)

end Session

end AccessGate
