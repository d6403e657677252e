import AccessGate.Keys.Rsa
import Mathlib.Data.Int.ModEq
import Mathlib.Data.List.Induction
import Mathlib.Data.Nat.ModEq
import Mathlib.Tactic.Ring

/-!
The arithmetic that keys are made of: numbers and their octets, powers by squaring, and inverses by the
division algorithm.
-/

namespace AccessGate.Rsa

open Http (Octets)

/-! ## Octets -/

theorem toNat_octet (n : Nat) : (UInt8.ofNat n).toNat = n % 256 := UInt8.toNat_ofNat'

theorem numberOf_snoc (octets : Octets) (b : UInt8) :
    numberOf (octets ++ [b]) = numberOf octets * 256 + b.toNat := by
  simp only [numberOf, List.foldl_append, List.foldl_cons, List.foldl_nil]

theorem numberOf_lt (octets : Octets) : numberOf octets < 256 ^ octets.length := by
  induction octets using List.reverseRecOn with
  | nil => exact Nat.one_pos
  | append_singleton octets b ih =>
      have last := b.toNat_lt
      rw [numberOf_snoc, List.length_append, List.length_singleton, Nat.pow_succ]
      omega

theorem octetsBefore_eq (size n : Nat) (behind : Octets) :
    octetsBefore size n behind = octetsOf size n ++ behind := by
  induction size generalizing n behind with
  | zero => rfl
  | succ size ih =>
      change octetsBefore size (n / 256) (_ :: behind) = octetsBefore size (n / 256) [_] ++ behind
      rw [ih, ih (n / 256) [_], List.append_assoc]
      rfl

theorem octetsOf_succ (size n : Nat) : octetsOf (size + 1) n = octetsOf size (n / 256) ++ [UInt8.ofNat n] :=
  octetsBefore_eq size (n / 256) [UInt8.ofNat n]

theorem length_octetsOf (size n : Nat) : (octetsOf size n).length = size := by
  induction size generalizing n with
  | zero => rfl
  | succ size ih => rw [octetsOf_succ, List.length_append, ih, List.length_singleton]

theorem numberOf_octetsOf (size n : Nat) : numberOf (octetsOf size n) = n % 256 ^ size := by
  induction size generalizing n with
  | zero => rw [Nat.pow_zero, Nat.mod_one]; rfl
  | succ size ih =>
      rw [octetsOf_succ, numberOf_snoc, ih, toNat_octet, Nat.pow_succ', Nat.mod_mul, Nat.mul_comm 256]
      exact Nat.add_comm _ _

theorem octetsOf_numberOf (octets : Octets) : octetsOf octets.length (numberOf octets) = octets := by
  induction octets using List.reverseRecOn with
  | nil => rfl
  | append_singleton octets b ih =>
      have last := b.toNat_lt
      have front : (numberOf octets * 256 + b.toNat) / 256 = numberOf octets := by omega
      rw [numberOf_snoc, List.length_append, List.length_singleton, octetsOf_succ, front, ih]
      congr 2
      rw [← UInt8.toNat_inj, toNat_octet]
      omega

theorem width_le (n size : Nat) : width n < size + 1 ↔ ¬ 2 ^ (8 * size) ≤ n := by
  unfold width
  by_cases zero : n = 0
  · rw [if_pos zero, zero, Nat.not_le]
    exact iff_of_true (Nat.succ_pos size) (Nat.two_pow_pos _)
  · rw [if_neg zero, ← Nat.le_log2 zero]
    omega

theorem lt_width (n : Nat) : n < 256 ^ width n := by
  have room := (width_le n (width n)).mp (Nat.lt_succ_self _)
  rw [Nat.pow_mul] at room
  exact Nat.not_le.mp room

theorem numberOf_width (n : Nat) : numberOf (octetsOf (width n) n) = n := by
  rw [numberOf_octetsOf, Nat.mod_eq_of_lt (lt_width n)]

/-! ## Powers -/

theorem powMod_eq (modulus base exponent : Nat) : powMod modulus base exponent = base ^ exponent % modulus := by
  induction exponent using Nat.strongRecOn with
  | ind exponent ih =>
      rw [powMod]
      by_cases zero : exponent = 0
      · rw [if_pos zero, zero, Nat.pow_zero]
      · have half := ih (exponent / 2) (by omega)
        have square : base ^ (exponent / 2) % modulus * (base ^ (exponent / 2) % modulus) % modulus =
            base ^ (2 * (exponent / 2)) % modulus := by
          rw [← Nat.mul_mod, ← Nat.pow_add, Nat.two_mul]
        rw [if_neg zero, half]
        simp only [square]
        by_cases odd : exponent % 2 = 1
        · have whole : exponent = 2 * (exponent / 2) + 1 := by omega
          rw [if_pos odd, Nat.mod_mul_mod, ← Nat.pow_succ, Nat.succ_eq_add_one, ← whole]
        · have whole : exponent = 2 * (exponent / 2) := by omega
          rw [if_neg odd, ← whole]

/-! ## Inverses -/

theorem euclid_gcd (a b : Nat) (s t : Int) : (euclid a b s t).1 = Nat.gcd a b := by
  induction b using Nat.strongRecOn generalizing a s t with
  | ind b ih =>
      rw [euclid]
      by_cases zero : b = 0
      · rw [if_pos zero, zero, Nat.gcd_zero_right]
      · rw [if_neg zero, ih (a % b) (Nat.mod_lt a (Nat.pos_of_ne_zero zero)), Nat.gcd_comm b, ← Nat.gcd_rec,
          Nat.gcd_comm]

/-- What the coefficients stand for is kept by each division. -/
theorem euclid_coefficient (x modulus : Int) (a b : Nat) (s t : Int) (first : (a : Int) ≡ s * x [ZMOD modulus])
    (second : (b : Int) ≡ t * x [ZMOD modulus]) :
    ((euclid a b s t).1 : Int) ≡ (euclid a b s t).2 * x [ZMOD modulus] := by
  induction b using Nat.strongRecOn generalizing a s t with
  | ind b ih =>
      rw [euclid]
      by_cases zero : b = 0
      · rwa [if_pos zero]
      · rw [if_neg zero]
        refine ih (a % b) (Nat.mod_lt a (Nat.pos_of_ne_zero zero)) b t (s - (a / b : Nat) * t) second ?_
        have rest : ((a % b : Nat) : Int) = a - (a / b : Nat) * b := by
          push_cast
          rw [Int.emod_def, mul_comm (b : Int)]
        have parts : (s - (a / b : Nat) * t) * x = s * x - (a / b : Nat) * (t * x) := by ring
        rw [rest, parts]
        exact first.sub (second.mul_left _)

theorem inverse_lt (a modulus : Nat) (some_ : 0 < modulus) : inverse a modulus < modulus := by
  have positive : (0 : Int) < modulus := by exact_mod_cast some_
  have below := Int.emod_lt_of_pos (euclid a modulus 1 0).2 positive
  have above := Int.emod_nonneg (euclid a modulus 1 0).2 positive.ne'
  unfold inverse
  omega

theorem mul_inverse (a modulus : Nat) (some_ : 0 < modulus) (prime : Nat.Coprime a modulus) :
    a * inverse a modulus ≡ 1 [MOD modulus] := by
  have positive : (0 : Int) < modulus := by exact_mod_cast some_
  have kept := euclid_coefficient a modulus a modulus 1 0 (by rw [one_mul]) (by
    rw [zero_mul]
    exact Int.emod_self.trans (Int.zero_emod _).symm)
  rw [euclid_gcd, prime] at kept
  have read : ((inverse a modulus : Nat) : Int) = (euclid a modulus 1 0).2 % modulus :=
    Int.toNat_of_nonneg (Int.emod_nonneg _ positive.ne')
  rw [← Int.natCast_modEq_iff]
  push_cast
  rw [read, mul_comm]
  exact ((Int.mod_modEq _ _).mul_right _).trans kept.symm

end AccessGate.Rsa
