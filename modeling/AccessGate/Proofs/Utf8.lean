import AccessGate.Text.Utf8

/-!
Texts in octets. Whatever was encoded is read back, character by character.
-/

namespace AccessGate.Utf8

theorem encodeChar_ascii (c : Char) (ascii : c.toNat < 0x80) :
    String.utf8EncodeChar c = [UInt8.ofNat c.toNat] :=
  if_pos (Nat.le_of_lt_succ ascii)

theorem size_append (a b : List Char) : size (a ++ b) = size a + size b := by
  have shifted : ∀ total, b.foldl (fun total c => total + c.utf8Size) total = total + size b := by
    unfold size
    induction b with
    | nil => exact fun total => rfl
    | cons c b ih =>
        intro total
        rw [List.foldl_cons, List.foldl_cons, ih (total + c.utf8Size), ih (0 + c.utf8Size)]
        omega
  unfold size
  rw [List.foldl_append, shifted]
  rfl

/-! ## Leading and continuation octets -/

theorem octet_toNat (n : Nat) (small : n < 256) : (UInt8.ofNat n).toNat = n := by
  rw [UInt8.toNat_ofNat']
  omega

theorem lead_two : ∀ n : Fin 32, 2 ≤ n.val →
    lead? (UInt8.ofNat (n + 192)) = some (1, 0x80, 0xBF, n.val) := by
  decide

theorem lead_three : ∀ n : Fin 16, lead? (UInt8.ofNat (n + 224)) =
    some (2, if n.val = 0 then 0xA0 else 0x80, if n.val = 13 then 0x9F else 0xBF, n.val) := by
  decide

theorem lead_four : ∀ n : Fin 5, lead? (UInt8.ofNat (n + 240)) =
    some (3, if n.val = 0 then 0x90 else 0x80, if n.val = 4 then 0x8F else 0xBF, n.val) := by
  decide

theorem continuation_octet (need point d : Nat) (low high : UInt8) (rest : List UInt8)
    (small : d < 64) (above : low.toNat ≤ d + 128) (below : d + 128 ≤ high.toNat) :
    continuation (need + 1) low high point (UInt8.ofNat (d + 128) :: rest) =
      let next := continuation need 0x80 0xBF (point * 64 + d) rest
      (next.1 + 1, next.2) := by
  have same := octet_toNat (d + 128) (by omega)
  rw [continuation, if_pos ⟨UInt8.le_iff_toNat_le.mpr (by omega), UInt8.le_iff_toNat_le.mpr (by omega)⟩, same,
    Nat.add_sub_cancel]

theorem continuation_last (point d : Nat) (low high : UInt8) (rest : List UInt8)
    (small : d < 64) (above : low.toNat ≤ d + 128) (below : d + 128 ≤ high.toNat) :
    continuation 1 low high point (UInt8.ofNat (d + 128) :: rest) = (1, true, point * 64 + d) := by
  rw [continuation_octet 0 point d low high rest small above below]
  rfl

theorem read_lead (b low high : UInt8) (rest : List UInt8) (need bits taken point : Nat)
    (large : 0x80 ≤ b.toNat) (lead : lead? b = some (need, low, high, bits))
    (next : continuation need low high bits rest = (taken, true, point)) :
    read (b :: rest) = some (Char.ofNat point) :: read (rest.drop taken) := by
  have beyond : ¬ b < 0x80 := by
    rw [UInt8.lt_iff_toNat_lt]
    exact Nat.not_lt.mpr large
  rw [read, if_neg beyond, lead]
  simp only [next, if_true]

theorem read_two (v : Nat) (rest : List UInt8) (low : 128 ≤ v) (high : v ≤ 2047) :
    read (UInt8.ofNat (v / 64 % 32 + 192) :: UInt8.ofNat (v % 64 + 128) :: rest) =
      some (Char.ofNat v) :: read rest := by
  have lead := lead_two ⟨v / 64 % 32, by omega⟩ (by dsimp only; omega)
  have next := continuation_last (v / 64 % 32) (v % 64) 0x80 0xBF rest (by omega)
    (by change 128 ≤ _; omega) (by change _ ≤ 191; omega)
  have whole : v / 64 % 32 * 64 + v % 64 = v := by omega
  rw [whole] at next
  exact read_lead _ _ _ _ _ _ 1 v (by rw [octet_toNat _ (by omega)]; omega) lead next

-- The second octet keeps out what would have been shorter and what is half of a pair.
theorem read_three (v : Nat) (rest : List UInt8) (low : 2048 ≤ v) (high : v ≤ 65535)
    (valid : v < 55296 ∨ 57343 < v) :
    read (UInt8.ofNat (v / 4096 % 16 + 224) :: UInt8.ofNat (v / 64 % 64 + 128) ::
      UInt8.ofNat (v % 64 + 128) :: rest) = some (Char.ofNat v) :: read rest := by
  have lead := lead_three ⟨v / 4096 % 16, by omega⟩
  have second := continuation_octet 1 (v / 4096 % 16) (v / 64 % 64)
    (if v / 4096 % 16 = 0 then 0xA0 else 0x80) (if v / 4096 % 16 = 13 then 0x9F else 0xBF)
    (UInt8.ofNat (v % 64 + 128) :: rest) (by omega)
    (by
      split
      · change 160 ≤ _
        omega
      · change 128 ≤ _
        omega)
    (by
      split
      · change _ ≤ 159
        omega
      · change _ ≤ 191
        omega)
  have third := continuation_last (v / 4096 % 16 * 64 + v / 64 % 64) (v % 64) 0x80 0xBF rest
    (by omega) (by change 128 ≤ _; omega) (by change _ ≤ 191; omega)
  have whole : (v / 4096 % 16 * 64 + v / 64 % 64) * 64 + v % 64 = v := by omega
  rw [third, whole] at second
  exact read_lead _ _ _ _ _ _ 2 v (by rw [octet_toNat _ (by omega)]; omega) lead second

-- It also keeps out what is beyond the last code point.
theorem read_four (v : Nat) (rest : List UInt8) (low : 65536 ≤ v) (high : v < 1114112) :
    read (UInt8.ofNat (v / 262144 % 8 + 240) :: UInt8.ofNat (v / 4096 % 64 + 128) ::
      UInt8.ofNat (v / 64 % 64 + 128) :: UInt8.ofNat (v % 64 + 128) :: rest) =
        some (Char.ofNat v) :: read rest := by
  have lead := lead_four ⟨v / 262144 % 8, by omega⟩
  have second := continuation_octet 2 (v / 262144 % 8) (v / 4096 % 64)
    (if v / 262144 % 8 = 0 then 0x90 else 0x80) (if v / 262144 % 8 = 4 then 0x8F else 0xBF)
    (UInt8.ofNat (v / 64 % 64 + 128) :: UInt8.ofNat (v % 64 + 128) :: rest) (by omega)
    (by
      split
      · change 144 ≤ _
        omega
      · change 128 ≤ _
        omega)
    (by
      split
      · change _ ≤ 143
        omega
      · change _ ≤ 191
        omega)
  have third := continuation_octet 1 (v / 262144 % 8 * 64 + v / 4096 % 64) (v / 64 % 64) 0x80 0xBF
    (UInt8.ofNat (v % 64 + 128) :: rest) (by omega) (by change 128 ≤ _; omega)
    (by change _ ≤ 191; omega)
  have fourth := continuation_last ((v / 262144 % 8 * 64 + v / 4096 % 64) * 64 + v / 64 % 64)
    (v % 64) 0x80 0xBF rest (by omega) (by change 128 ≤ _; omega) (by change _ ≤ 191; omega)
  have whole : ((v / 262144 % 8 * 64 + v / 4096 % 64) * 64 + v / 64 % 64) * 64 + v % 64 = v := by
    omega
  rw [third, fourth, whole] at second
  exact read_lead _ _ _ _ _ _ 3 v (by rw [octet_toNat _ (by omega)]; omega) lead second

/-! ## Characters and texts -/

theorem read_char (c : Char) (rest : List UInt8) :
    read (String.utf8EncodeChar c ++ rest) = some c :: read rest := by
  have valid : c.toNat < 55296 ∨ 57343 < c.toNat ∧ c.toNat < 1114112 := c.valid
  have again : Char.ofNat c.toNat = c := Char.ofNat_toNat c
  by_cases one : c.toNat ≤ 127
  · have low : UInt8.ofNat c.toNat < 0x80 := by
      rw [UInt8.lt_iff_toNat_lt, octet_toNat c.toNat (by omega)]
      exact Nat.lt_succ_of_le one
    rw [encodeChar_ascii c (Nat.lt_succ_of_le one), List.singleton_append, read, if_pos low,
      octet_toNat c.toNat (by omega), again]
  · by_cases two : c.toNat ≤ 2047
    · have found := read_two c.toNat rest (by omega) two
      rw [again] at found
      rw [← found]
      exact congrArg (fun octets => read (octets ++ rest)) ((if_neg one).trans (if_pos two))
    · by_cases three : c.toNat ≤ 65535
      · have found := read_three c.toNat rest (by omega) three (by omega)
        rw [again] at found
        rw [← found]
        exact congrArg (fun octets => read (octets ++ rest))
          ((if_neg one).trans ((if_neg two).trans (if_pos three)))
      · have found := read_four c.toNat rest (by omega) (by omega)
        rw [again] at found
        rw [← found]
        exact congrArg (fun octets => read (octets ++ rest))
          ((if_neg one).trans ((if_neg two).trans (if_neg three)))

theorem read_encode (cs : List Char) : read (encode cs) = cs.map some := by
  induction cs with
  | nil => exact read.eq_1
  | cons c cs ih =>
      rw [encode, List.flatMap_cons, read_char]
      exact congrArg (some c :: ·) ih

theorem decode_encode (cs : List Char) : decode? (encode cs) = some cs := by
  rw [decode?, read_encode, List.mapM_map]
  induction cs with
  | nil => rfl
  | cons c cs ih =>
      rw [List.mapM_cons, ih]
      rfl

theorem encode_injective : Function.Injective encode := by
  intro a b same
  have read := decode_encode a
  rw [same, decode_encode] at read
  exact (Option.some.inj read).symm

end AccessGate.Utf8
