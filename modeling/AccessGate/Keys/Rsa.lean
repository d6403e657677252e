import AccessGate.Environment
import AccessGate.Keys.Sha256

/-!
Key pairs over the product of two primes, and their signatures of hashed messages. The arithmetic
is that of natural numbers; a number is written as octets with the highest first.
-/

namespace AccessGate.Rsa

open Http (Octets)

def numberOf (octets : Octets) : Nat := octets.foldl (fun n b => n * 256 + b.toNat) 0

def octetsBefore : Nat → Nat → Octets → Octets
  | 0, _, behind => behind
  | size + 1, n, behind => octetsBefore size (n / 256) (UInt8.ofNat n :: behind)

def octetsOf (size n : Nat) : Octets := octetsBefore size n []

def width (n : Nat) : Nat := if n = 0 then 0 else Nat.log2 n / 8 + 1

def powMod (modulus base exponent : Nat) : Nat :=
  if exponent = 0 then 1 % modulus
  else
    let root := powMod modulus base (exponent / 2)
    let square := root * root % modulus
    if exponent % 2 = 1 then square * base % modulus else square
termination_by exponent
decreasing_by omega

/-! ## Primes -/

/-- The odd part of a number and how often two divides it. -/
def oddPart (n : Nat) : Nat × Nat :=
  if n = 0 then (0, 0)
  else if n % 2 = 1 then (n, 0)
  else ((oddPart (n / 2)).1, (oddPart (n / 2)).2 + 1)
termination_by n
decreasing_by all_goals omega

def reachesMinusOne (n : Nat) : Nat → Nat → Bool
  | 0, _ => false
  | steps + 1, x => x == n - 1 || reachesMinusOne n steps (x * x % n)

def passes (n base : Nat) : Bool :=
  let parts := oddPart (n - 1)
  let x := powMod n base parts.1
  x == 1 || reachesMinusOne n parts.2 x

def smallPrimes : List Nat :=
  [2, 3, 5, 7, 11, 13, 17, 19, 23, 29, 31, 37, 41, 43, 47, 53, 59, 61, 67, 71, 73, 79, 83, 89, 97,
   101, 103, 107, 109, 113, 127, 131, 137, 139, 149, 151, 157, 163, 167, 173, 179, 181, 191, 193,
   197, 199, 211, 223, 227, 229, 233, 239, 241, 251, 257, 263, 269, 271, 277, 281, 283, 293, 307]

/-- Primes pass, and hardly anything else does. -/
def isLikelyPrime (n : Nat) : Bool :=
  smallPrimes.all (fun p => n % p != 0 || n == p) &&
    n > 1 && (smallPrimes.take 12).all fun base => n == base || passes n base

def publicExponent : Nat := 65537

def firstFactor : Nat → Nat → Option Nat
  | 0, _ => none
  | tries + 1, n =>
      if (n - 1) % publicExponent != 0 && isLikelyPrime n then some n
      else firstFactor tries (n + 2)

/-- An odd number of so many bits, the two highest of which are set. -/
def candidate (bits : Nat) (octets : Octets) : Nat :=
  let low := numberOf octets % Nat.pow 2 (bits - 2)
  3 * Nat.pow 2 (bits - 2) + low / 2 * 2 + 1

def factor (env : Environment σ) (bits : Nat) : Action σ (Option Nat) := do
  let octets ← env.octets ((bits + 7) / 8)
  pure ((firstFactor (64 * bits) (candidate bits octets)).filter (· < Nat.pow 2 bits))

/-! ## Keys -/

/-- The numbers of a private key, its two factors and what helps to compute with them. -/
structure PrivateKey where
  modulus : Nat
  publicExponent : Nat
  privateExponent : Nat
  p : Nat
  q : Nat
  dp : Nat
  dq : Nat
  qi : Nat
  deriving DecidableEq, Repr, Inhabited

/-- Coefficients of the two numbers that the remainders of the division algorithm are made of; the
first of them is the inverse when the last remainder is one. -/
def euclid (a b : Nat) (s t : Int) : Nat × Int :=
  if b = 0 then (a, s) else euclid b (a % b) t (s - (a / b : Nat) * t)
termination_by b
decreasing_by
  exact Nat.mod_lt _ (by omega)

def inverse (a modulus : Nat) : Nat := ((euclid a modulus 1 0).2 % modulus).toNat

def ofFactors (p q : Nat) : PrivateKey :=
  let d := inverse publicExponent (Nat.lcm (p - 1) (q - 1))
  ⟨p * q, publicExponent, d, p, q, d % (p - 1), d % (q - 1), inverse q p⟩

def minBits : Nat := 512

/-- A new key, unless it would be too short or the factors turn out equal. -/
def generate (env : Environment σ) (bits : Nat) : Action σ (Option PrivateKey) := do
  if bits < minBits then pure none
  else
    let p ← factor env ((bits + 1) / 2)
    let q ← factor env (bits / 2)
    match p, q with
    | some p, some q => pure (if p = q then none else some (ofFactors p q))
    | _, _ => pure none

/-! ## Signatures -/

/-- What stands in front of a hash to tell that it is one, and of which kind. -/
def hashMark : Octets :=
  [0x30, 0x31, 0x30, 0x0d, 0x06, 0x09, 0x60, 0x86, 0x48, 0x01, 0x65, 0x03, 0x04, 0x02, 0x01, 0x05,
   0x00, 0x04, 0x20]

/-- The number that is raised to the private exponent: the marked hash, filled up to the size of
the modulus. -/
def padded (size : Nat) (message : Octets) : Octets :=
  let marked := hashMark ++ Sha256.hash message
  [0x00, 0x01] ++ List.replicate (size - marked.length - 3) 0xff ++ 0x00 :: marked

namespace PrivateKey

/-- Whether the key can be computed with: that works modulo odd numbers only. -/
def isOdd (key : PrivateKey) : Bool := [key.modulus, key.p, key.q].all (· % 2 == 1)

def rejoined (key : PrivateKey) (n : Nat) : Nat :=
  let first := powMod key.p n key.dp
  let second := powMod key.q n key.dq
  let apart := (first + key.p - second % key.p) % key.p * key.qi % key.p
  (second + apart * key.q) % key.modulus

/-- What gives a number back when it is raised to the public exponent. Where the factors fail to
find it the private exponent has to do. -/
def root (key : PrivateKey) (n : Nat) : Nat :=
  let found := key.rejoined n
  if powMod key.modulus found key.publicExponent = n then found
  else powMod key.modulus n key.privateExponent

def sign (key : PrivateKey) (message : Octets) : Octets :=
  let size := width key.modulus
  octetsOf size (key.root (numberOf (padded size message)))

def signer? (key : PrivateKey) : Option (Octets → Octets) :=
  if key.isOdd then some key.sign else none

end PrivateKey

/-- Whether public numbers are taken for checks: with large ones a check would take too long. -/
def isCheckable (modulus exponent : Nat) : Bool :=
  exponent < modulus && width modulus ≤ 2048 && (width modulus ≤ 384 || width exponent ≤ 8)

def verifies (modulus exponent : Nat) (message signature : Octets) : Bool :=
  let size := width modulus
  isCheckable modulus exponent && signature.length == size && numberOf signature < modulus &&
    octetsOf size (powMod modulus (numberOf signature) exponent) == padded size message

end AccessGate.Rsa
