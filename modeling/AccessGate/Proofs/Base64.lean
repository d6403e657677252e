import AccessGate.Text.Base64

/-!
Base 64 is read back. The text for URLs consists of its own digits only, so no padding and no point stands in
it, and the octets come back however many there are.
-/

namespace AccessGate.Base64

/-- Letters, digits, the hyphen and the underscore. -/
def isUrlDigit (c : Char) : Bool := c.isAlphanum || c == '-' || c == '_'

theorem digit_url (n : Nat) (small : n < 64) : isUrlDigit (digit true n) = true := by
  have table : ∀ n : Fin 64, isUrlDigit (digit true n) = true := by decide
  exact table ⟨n, small⟩

theorem value_digit (n : Nat) (small : n < 64) : value? true (digit true n) = some n := by
  have table : ∀ n : Fin 64, value? true (digit true n) = some n.val := by decide
  exact table ⟨n, small⟩

def sextets : List UInt8 → List Nat
  | [] => []
  | [a] =>
      let n := a.toNat * 16
      [n / 64, n % 64]
  | [a, b] =>
      let n := (a.toNat * 256 + b.toNat) * 4
      [n / 4096, n / 64 % 64, n % 64]
  | a :: b :: c :: rest =>
      let n := (a.toNat * 256 + b.toNat) * 256 + c.toNat
      n / 262144 :: n / 4096 % 64 :: n / 64 % 64 :: n % 64 :: sextets rest

theorem encodeUrl_eq (octets : List UInt8) : encodeUrl octets = (sextets octets).map (digit true) := by
  unfold encodeUrl
  induction octets using sextets.induct with
  | case1 => rfl
  | case2 a => rfl
  | case3 a b => rfl
  | case4 a b c rest ih => simp only [digits, sextets, List.map_cons, ih]

theorem sextets_small (octets : List UInt8) : ∀ n ∈ sextets octets, n < 64 := by
  have octet (a : UInt8) : a.toNat < 256 := a.toNat_lt
  induction octets using sextets.induct with
  | case1 => exact nofun
  | case2 a =>
      have := octet a
      simp only [sextets, List.forall_mem_cons]
      exact ⟨by omega, by omega, nofun⟩
  | case3 a b =>
      have := octet a
      have := octet b
      simp only [sextets, List.forall_mem_cons]
      exact ⟨by omega, by omega, by omega, nofun⟩
  | case4 a b c rest ih =>
      have := octet a
      have := octet b
      have := octet c
      simp only [sextets, List.forall_mem_cons]
      exact ⟨by omega, by omega, by omega, by omega, ih⟩

theorem octet_eq (a : UInt8) (n : Nat) (same : n = a.toNat) : UInt8.ofNat n = a := by
  rw [same, UInt8.ofNat_toNat]

-- By induction along the groups of three octets; the bits that the last group lacks are zero.
theorem octets_sextets (octets : List UInt8) : octets? (sextets octets) = some octets := by
  have octet (a : UInt8) : a.toNat < 256 := a.toNat_lt
  induction octets using sextets.induct with
  | case1 => rfl
  | case2 a =>
      have := octet a
      simp only [sextets, octets?]
      rw [if_pos (by omega), octet_eq a _ (by omega)]
  | case3 a b =>
      have := octet a
      have := octet b
      simp only [sextets, octets?]
      rw [if_pos (by omega), octet_eq a _ (by omega), octet_eq b _ (by omega)]
  | case4 a b c rest ih =>
      have := octet a
      have := octet b
      have := octet c
      simp only [sextets, octets?, ih, Option.map_some]
      rw [octet_eq a _ (by omega), octet_eq b _ (by omega), octet_eq c _ (by omega)]

theorem encodeUrl_digits (octets : List UInt8) : ∀ c ∈ encodeUrl octets, isUrlDigit c = true := by
  rw [encodeUrl_eq]
  intro c member
  obtain ⟨n, inside, rfl⟩ := List.mem_map.mp member
  exact digit_url n (sextets_small octets n inside)

theorem decodeUrl_encodeUrl (octets : List UInt8) : decodeUrl? (encodeUrl octets) = some octets := by
  have values : ∀ numbers : List Nat, (∀ n ∈ numbers, n < 64) →
      (numbers.map (digit true)).mapM (value? true) = some numbers := by
    intro numbers small
    induction numbers with
    | nil => rfl
    | cons n numbers ih =>
        obtain ⟨first, others⟩ := List.forall_mem_cons.mp small
        simp only [List.map_cons, List.mapM_cons, value_digit n first, ih others]
        rfl
  unfold decodeUrl?
  rw [encodeUrl_eq, values _ (sextets_small octets), Option.bind_some, octets_sextets]

end AccessGate.Base64
