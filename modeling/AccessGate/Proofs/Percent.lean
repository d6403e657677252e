import AccessGate.Proofs.Text
import AccessGate.Proofs.Utf8
import AccessGate.Text.Percent

/-!
What percent-encoding leaves behind: characters that need no escape, and the signs of escapes. A text
that has nothing else stays as it is.
-/

namespace AccessGate

namespace Percent

/-- The signs that escapes are written with. -/
def signs : List Char := "%0123456789ABCDEF".toList

theorem halves_small (b : UInt8) : b.toNat / 16 < 16 ∧ b.toNat % 16 < 16 := by
  have bound := b.toNat_lt
  omega

theorem escape_signs (b : UInt8) : ∀ c ∈ escape b, c ∈ signs := by
  have table : ∀ n : Fin 16, Text.upperHexDigit n ∈ signs := by decide
  obtain ⟨high, low⟩ := halves_small b
  intro c member
  simp only [escape, List.mem_cons, List.not_mem_nil, or_false] at member
  rcases member with rfl | rfl | rfl
  · decide
  · exact table ⟨_, high⟩
  · exact table ⟨_, low⟩

-- A character of the result was kept, or it belongs to an escape.
theorem mem_encode (escaped : Char → Bool) (cs : List Char) (c : Char)
    (member : c ∈ encode escaped cs) :
    (c ∈ cs ∧ c.toNat < 0x80 ∧ escaped c = false) ∨ c ∈ signs := by
  obtain ⟨d, inside, coded⟩ := List.mem_flatMap.mp member
  unfold encodeChar at coded
  split at coded
  · rename_i plain
    cases List.mem_singleton.mp coded
    exact .inl ⟨inside, plain⟩
  · obtain ⟨b, -, sign⟩ := List.mem_flatMap.mp coded
    exact .inr (escape_signs b c sign)

theorem encode_plain (escaped : Char → Bool) (cs : List Char)
    (plain : ∀ c ∈ cs, c.toNat < 0x80 ∧ escaped c = false) : encode escaped cs = cs := by
  induction cs with
  | nil => rfl
  | cons c cs ih =>
      have rest := ih fun d member => plain d (List.mem_cons_of_mem _ member)
      have first : encodeChar escaped c = [c] := if_pos (plain c List.mem_cons_self)
      simp only [encode, List.flatMap_cons, first] at rest ⊢
      rw [rest]
      rfl

theorem not_mem_encode (escaped : Char → Bool) (cs : List Char) (c : Char)
    (gone : escaped c = true) (other : c ∉ signs) : c ∉ encode escaped cs := by
  intro member
  rcases mem_encode escaped cs c member with ⟨-, -, kept⟩ | sign
  · rw [gone] at kept
    cases kept
  · exact other sign

theorem encode_encode (escaped : Char → Bool) (safe : ∀ c ∈ signs, escaped c = false)
    (cs : List Char) : encode escaped (encode escaped cs) = encode escaped cs := by
  have ascii : ∀ c ∈ signs, c.toNat < 0x80 := Text.each_of_all signs _ (by decide)
  apply encode_plain
  intro c member
  rcases mem_encode escaped cs c member with ⟨-, plain⟩ | sign
  · exact plain
  · exact ⟨ascii c sign, safe c sign⟩

theorem decode_unescaped (cs : List Char) (unescaped : '%' ∉ cs) : decode cs = Utf8.encode cs := by
  induction cs with
  | nil => rfl
  | cons c cs ih =>
      have other : c ≠ '%' := by
        rintro rfl
        exact unescaped List.mem_cons_self
      have rest := ih fun inner => unescaped (List.mem_cons_of_mem _ inner)
      rw [decode]
      · rw [rest]
        rfl
      · intro a b tail same
        cases same
        exact absurd rfl other

theorem decode_plain (cs : List Char) (unescaped : '%' ∉ cs) :
    Utf8.decode? (decode cs) = some cs := by
  rw [decode_unescaped cs unescaped, Utf8.decode_encode]

end Percent

end AccessGate
