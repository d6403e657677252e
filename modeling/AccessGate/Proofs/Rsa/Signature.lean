import AccessGate.Proofs.Rsa.Numbers
import Mathlib.FieldTheory.Finite.Basic
import Mathlib.NumberTheory.LucasPrimality
import Mathlib.Tactic.NormNum.Prime

/-!
Signatures of valid keys. The numbers of a key belong together when the exponents undo each other modulo both
prime factors; then what was signed is found again with the public numbers. Keys that are made from two primes
are valid.
-/

namespace AccessGate.Rsa

open Http (Octets)

namespace PrivateKey

/-- The numbers of a key belong together (RFC 8017, 3.2). -/
structure Valid (key : PrivateKey) : Prop where
  prime_p : key.p.Prime
  prime_q : key.q.Prime
  odd_p : key.p ≠ 2
  odd_q : key.q ≠ 2
  apart : key.p ≠ key.q
  modulus : key.modulus = key.p * key.q
  inverse_p : key.publicExponent * key.privateExponent ≡ 1 [MOD key.p - 1]
  inverse_q : key.publicExponent * key.privateExponent ≡ 1 [MOD key.q - 1]
  dp : key.publicExponent * key.dp ≡ 1 [MOD key.p - 1] ∧ key.dp < key.p
  dq : key.publicExponent * key.dq ≡ 1 [MOD key.q - 1] ∧ key.dq < key.q
  qi : key.q * key.qi ≡ 1 [MOD key.p] ∧ key.qi < key.p

end PrivateKey

/-! ## Exponents that undo each other -/

theorem pow_factor (p : Nat) (prime : p.Prime) (odd : p ≠ 2) (e d : Nat) (inverse : e * d ≡ 1 [MOD p - 1])
    (n : Nat) : n ^ (e * d) ≡ n [MOD p] := by
  have large := prime.two_le
  have positive : e * d ≠ 0 := by
    intro zero
    rw [zero] at inverse
    have divides := (Nat.modEq_zero_iff_dvd.mp inverse.symm)
    have small := Nat.le_of_dvd Nat.one_pos divides
    omega
  by_cases multiple : p ∣ n
  · have zero := Nat.modEq_zero_iff_dvd.mpr multiple
    exact ((zero.pow _).trans (by rw [zero_pow positive])).trans zero.symm
  · obtain ⟨k, whole⟩ := (Nat.modEq_iff_dvd' (Nat.one_le_iff_ne_zero.mpr positive)).mp inverse.symm
    have parts : e * d = (p - 1) * k + 1 := by omega
    have coprime : Nat.Coprime n p := ((Nat.Prime.coprime_iff_not_dvd prime).mpr multiple).symm
    have fermat : n ^ (p - 1) ≡ 1 [MOD p] := by
      rw [← Nat.totient_prime prime]
      exact Nat.ModEq.pow_totient coprime
    rw [parts, Nat.pow_succ, Nat.pow_mul]
    simpa using (fermat.pow k).mul_right n

namespace PrivateKey

variable {key : PrivateKey} (valid : key.Valid)
include valid

theorem Valid.isOdd : key.isOdd = true := by
  have odd_p := valid.prime_p.eq_two_or_odd.resolve_left valid.odd_p
  have odd_q := valid.prime_q.eq_two_or_odd.resolve_left valid.odd_q
  have odd : key.modulus % 2 = 1 := by rw [valid.modulus, Nat.mul_mod, odd_p, odd_q]
  simp [PrivateKey.isOdd, odd, odd_p, odd_q]

theorem Valid.modulus_pos : 0 < key.modulus := by
  rw [valid.modulus]
  exact Nat.mul_pos valid.prime_p.pos valid.prime_q.pos

/-- Modulo the product of the factors a number comes back, since it does modulo each. -/
theorem Valid.pow (n : Nat) : (n ^ key.privateExponent) ^ key.publicExponent ≡ n [MOD key.modulus] := by
  have coprime : Nat.Coprime key.p key.q := (Nat.coprime_primes valid.prime_p valid.prime_q).mpr valid.apart
  rw [← Nat.pow_mul, Nat.mul_comm, valid.modulus]
  exact (Nat.modEq_and_modEq_iff_modEq_mul coprime).mp
    ⟨pow_factor key.p valid.prime_p valid.odd_p _ _ valid.inverse_p n,
      pow_factor key.q valid.prime_q valid.odd_q _ _ valid.inverse_q n⟩

theorem Valid.root_lt (n : Nat) : key.root n < key.modulus := by
  unfold root
  dsimp only
  split
  · exact Nat.mod_lt _ valid.modulus_pos
  · rw [powMod_eq]
    exact Nat.mod_lt _ valid.modulus_pos

/-- The root is one: either it was tried out, or the private exponent made it. -/
theorem Valid.root_pow (n : Nat) (small : n < key.modulus) :
    powMod key.modulus (key.root n) key.publicExponent = n := by
  unfold root
  dsimp only
  split
  · assumption
  · rw [powMod_eq, powMod_eq, ← Nat.pow_mod]
    exact Eq.trans (valid.pow n) (Nat.mod_eq_of_lt small)

end PrivateKey

/-! ## Hashes as numbers -/

theorem length_hash (message : Octets) : (Sha256.hash message).length = 32 := rfl

theorem length_padded (size : Nat) (room : 54 ≤ size) (message : Octets) :
    (padded size message).length = size := by
  simp only [padded, hashMark, List.length_append, List.length_cons, List.length_nil, List.length_replicate,
    length_hash]
  omega

theorem padded_lt (size : Nat) (room : 54 ≤ size) (message : Octets) :
    numberOf (padded size message) < 256 ^ (size - 1) := by
  obtain ⟨rest, parts⟩ : ∃ rest, padded size message = 0x00 :: rest := ⟨_, rfl⟩
  have length := length_padded size room message
  have same : numberOf (padded size message) = numberOf rest := by
    rw [parts]
    rfl
  rw [parts, List.length_cons] at length
  rw [same, show size - 1 = rest.length by omega]
  exact numberOf_lt rest

theorem verifies_sign (key : PrivateKey) (valid : key.Valid) (large : 2 ^ (8 * 255) ≤ key.modulus)
    (message : Octets) :
    verifies key.modulus key.publicExponent message (key.sign message) =
      isCheckable key.modulus key.publicExponent := by
  have room : 54 ≤ width key.modulus := by
    have := (width_le key.modulus 255).not.mpr (not_not_intro large)
    omega
  have below : 256 ^ (width key.modulus - 1) ≤ key.modulus := by
    have fits := (width_le key.modulus (width key.modulus - 1)).not.mp (by omega)
    rw [Nat.pow_mul] at fits
    exact not_not.mp fits
  have small := (padded_lt _ room message).trans_le below
  have inside := valid.root_lt (numberOf (padded (width key.modulus) message))
  have root := Nat.mod_eq_of_lt (inside.trans (lt_width key.modulus))
  unfold verifies PrivateKey.sign
  dsimp only
  rw [length_octetsOf, numberOf_octetsOf, root, valid.root_pow _ small]
  have back := octetsOf_numberOf (padded (width key.modulus) message)
  rw [length_padded _ room] at back
  simp [back, inside]

/-! ## Keys that are made -/

theorem valid_ofFactors (p q : Nat) (primes : p.Prime ∧ q.Prime) (odd : p ≠ 2 ∧ q ≠ 2) (apart : p ≠ q)
    (coprime : Nat.Coprime publicExponent (p - 1) ∧ Nat.Coprime publicExponent (q - 1)) :
    (ofFactors p q).Valid := by
  obtain ⟨prime_p, prime_q⟩ := primes
  have large_p := prime_p.two_le
  have large_q := prime_q.two_le
  have some_ : 0 < Nat.lcm (p - 1) (q - 1) := Nat.lcm_pos (by omega) (by omega)
  have both : Nat.Coprime publicExponent (Nat.lcm (p - 1) (q - 1)) :=
    Nat.Coprime.coprime_dvd_right (Nat.lcm_dvd_mul _ _) (coprime.1.mul_right coprime.2)
  have undone := mul_inverse publicExponent _ some_ both
  have undone_p := undone.of_dvd (Nat.dvd_lcm_left (p - 1) (q - 1))
  have undone_q := undone.of_dvd (Nat.dvd_lcm_right (p - 1) (q - 1))
  have rest : ∀ m d, publicExponent * d ≡ 1 [MOD m] → publicExponent * (d % m) ≡ 1 [MOD m] :=
    fun m d undone => ((Nat.mod_modEq d m).mul_left _).trans undone
  exact {
    prime_p := prime_p
    prime_q := prime_q
    odd_p := odd.1
    odd_q := odd.2
    apart := apart
    modulus := rfl
    inverse_p := undone_p
    inverse_q := undone_q
    dp := ⟨rest _ _ undone_p, (Nat.mod_lt _ (by omega)).trans_le (Nat.sub_le _ _)⟩
    dq := ⟨rest _ _ undone_q, (Nat.mod_lt _ (by omega)).trans_le (Nat.sub_le _ _)⟩
    qi := ⟨mul_inverse q p prime_p.pos ((Nat.coprime_primes prime_q prime_p).mpr apart.symm),
      inverse_lt q p prime_p.pos⟩ }

/-- Lucas's test of a number that is a product of two prime powers and one. -/
theorem prime_of_powers (p a first second i j : Nat) (primes : first.Prime ∧ second.Prime)
    (parts : p - 1 = first ^ i * second ^ j) (large : 2 ≤ p) (whole : powMod p a (p - 1) = 1)
    (tests : ∀ r ∈ [first, second], powMod p a ((p - 1) / r) ≠ 1) : p.Prime := by
  have read : ∀ n, (a : ZMod p) ^ n = 1 ↔ powMod p a n = 1 := by
    intro n
    rw [powMod_eq, ← Nat.cast_pow, ← Nat.cast_one, ZMod.natCast_eq_natCast_iff', Nat.one_mod_eq_one.mpr (by omega)]
  refine lucas_primality p a ((read _).mpr whole) fun r prime divides => ?_
  rw [ne_eq, read]
  refine tests r ?_
  rw [parts] at divides
  rcases prime.dvd_mul.mp divides with inside | inside
  · simp [(Nat.prime_dvd_prime_iff_eq prime primes.1).mp (prime.dvd_of_dvd_pow inside)]
  · simp [(Nat.prime_dvd_prime_iff_eq prime primes.2).mp (prime.dvd_of_dvd_pow inside)]

/-- A key of two primes that are easily tested. -/
def sample : PrivateKey := ofFactors (9 * 2 ^ 1305 + 1) (13 * 2 ^ 1000 + 1)

theorem valid_sample : sample.Valid := by
  have prime_p : Nat.Prime (9 * 2 ^ 1305 + 1) :=
    prime_of_powers _ 7 3 2 2 1305 ⟨Nat.prime_three, Nat.prime_two⟩ (by norm_num) (by decide +kernel)
      (by decide +kernel) (by decide +kernel)
  have prime_q : Nat.Prime (13 * 2 ^ 1000 + 1) :=
    prime_of_powers _ 6 13 2 1 1000 ⟨by norm_num, Nat.prime_two⟩ (by norm_num) (by decide +kernel)
      (by decide +kernel) (by decide +kernel)
  refine valid_ofFactors _ _ ⟨prime_p, prime_q⟩ (by decide +kernel) (by decide +kernel) ?_
  decide +kernel

theorem sample_large : 2 ^ (8 * 255) ≤ sample.modulus := by decide +kernel

end AccessGate.Rsa
