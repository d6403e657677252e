/-!
The hash of 256 bits: a message is padded to whole blocks of 64 octets, and block after block is
mixed into eight words.
-/

namespace AccessGate.Sha256

abbrev Word := UInt32

structure State where
  a : Word
  b : Word
  c : Word
  d : Word
  e : Word
  f : Word
  g : Word
  h : Word
  deriving DecidableEq, Repr

def rotate (n x : Word) : Word := (x >>> n) ||| (x <<< (32 - n))

def constants : List Word :=
  [0x428a2f98, 0x71374491, 0xb5c0fbcf, 0xe9b5dba5, 0x3956c25b, 0x59f111f1, 0x923f82a4, 0xab1c5ed5,
   0xd807aa98, 0x12835b01, 0x243185be, 0x550c7dc3, 0x72be5d74, 0x80deb1fe, 0x9bdc06a7, 0xc19bf174,
   0xe49b69c1, 0xefbe4786, 0x0fc19dc6, 0x240ca1cc, 0x2de92c6f, 0x4a7484aa, 0x5cb0a9dc, 0x76f988da,
   0x983e5152, 0xa831c66d, 0xb00327c8, 0xbf597fc7, 0xc6e00bf3, 0xd5a79147, 0x06ca6351, 0x14292967,
   0x27b70a85, 0x2e1b2138, 0x4d2c6dfc, 0x53380d13, 0x650a7354, 0x766a0abb, 0x81c2c92e, 0x92722c85,
   0xa2bfe8a1, 0xa81a664b, 0xc24b8b70, 0xc76c51a3, 0xd192e819, 0xd6990624, 0xf40e3585, 0x106aa070,
   0x19a4c116, 0x1e376c08, 0x2748774c, 0x34b0bcb5, 0x391c0cb3, 0x4ed8aa4a, 0x5b9cca4f, 0x682e6ff3,
   0x748f82ee, 0x78a5636f, 0x84c87814, 0x8cc70208, 0x90befffa, 0xa4506ceb, 0xbef9a3f7, 0xc67178f2]

def initial : State :=
  ⟨0x6a09e667, 0xbb67ae85, 0x3c6ef372, 0xa54ff53a, 0x510e527f, 0x9b05688c, 0x1f83d9ab, 0x5be0cd19⟩

def step (s : State) (input : Word × Word) : State :=
  let choice := (s.e &&& s.f) ^^^ (~~~s.e &&& s.g)
  let majority := (s.a &&& s.b) ^^^ (s.a &&& s.c) ^^^ (s.b &&& s.c)
  let first := s.h + (rotate 6 s.e ^^^ rotate 11 s.e ^^^ rotate 25 s.e) + choice + input.1 + input.2
  let second := (rotate 2 s.a ^^^ rotate 13 s.a ^^^ rotate 22 s.a) + majority
  ⟨first + second, s.a, s.b, s.c, s.d + first, s.e, s.f, s.g⟩

/-- The next word of the schedule; the words so far come latest first. -/
def nextWord (latest : List Word) : Word :=
  let back := fun i => latest.getD (i - 1) 0
  (rotate 17 (back 2) ^^^ rotate 19 (back 2) ^^^ (back 2 >>> 10)) + back 7 +
    (rotate 7 (back 15) ^^^ rotate 18 (back 15) ^^^ (back 15 >>> 3)) + back 16

def extended : Nat → List Word → List Word
  | 0, latest => latest
  | n + 1, latest => extended n (nextWord latest :: latest)

def schedule (block : List Word) : List Word := (extended 48 block.reverse).reverse

def compress (s : State) (block : List Word) : State :=
  let t := (constants.zip (schedule block)).foldl step s
  ⟨s.a + t.a, s.b + t.b, s.c + t.c, s.d + t.d, s.e + t.e, s.f + t.f, s.g + t.g, s.h + t.h⟩

def words : List UInt8 → List Word
  | a :: b :: c :: d :: rest =>
      (a.toUInt32 <<< 24 ||| b.toUInt32 <<< 16 ||| c.toUInt32 <<< 8 ||| d.toUInt32) :: words rest
  | _ => []

def octets (w : Word) : List UInt8 :=
  [(w >>> 24).toUInt8, (w >>> 16).toUInt8, (w >>> 8).toUInt8, w.toUInt8]

/-- A one bit, zeros, and the number of bits in eight octets. -/
def padding (size : Nat) : List UInt8 :=
  let bits := size * 8
  0x80 :: List.replicate ((119 - size % 64) % 64) 0 ++
    (octets (UInt32.ofNat (bits / Nat.pow 2 32)) ++ octets (UInt32.ofNat bits))

def blocks (ws : List Word) : List (List Word) :=
  if ws.isEmpty then [] else ws.take 16 :: blocks (ws.drop 16)
termination_by ws.length
decreasing_by
  rename_i filled
  have : ws ≠ [] := by simpa using filled
  have := List.length_pos_iff.2 this
  simp only [List.length_drop]
  omega

def hash (message : List UInt8) : List UInt8 :=
  let s := (blocks (words (message ++ padding message.length))).foldl compress initial
  [s.a, s.b, s.c, s.d, s.e, s.f, s.g, s.h].flatMap octets

def blockSize : Nat := 64

/-- A key as long as a block: one that is longer is hashed first. -/
def blockKey (key : List UInt8) : List UInt8 :=
  let short := if key.length > blockSize then hash key else key
  short ++ List.replicate (blockSize - short.length) 0

def authenticate (key message : List UInt8) : List UInt8 :=
  let padded := blockKey key
  hash (padded.map (· ^^^ 0x5c) ++ hash (padded.map (· ^^^ 0x36) ++ message))

end AccessGate.Sha256
