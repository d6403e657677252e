import Mathlib.Algebra.Group.Int.Defs
import AccessGate.Proofs.Json.Printed
import AccessGate.Proofs.Text

/-!
Whole numbers in print. A whole number of 64 bits, signed or not, is read back as it is: its digits are all
within bounds, and what ends a value also ends its digits.
-/

namespace AccessGate

open Text (natText intText digitValue?)

/-! ## Digits -/

-- By induction on the number, from which the last digit is taken off.
theorem Text.natText_head (n : Nat) (some_ : 0 < n) : (natText n).head? ≠ some '0' := by
  induction n using Nat.strongRecOn with
  | ind n ih =>
      by_cases single : n < 10
      · have table : ∀ n : Fin 10, 0 < n.val → (natText n.val).head? ≠ some '0' := by decide
        exact table ⟨n, single⟩ some_
      · have split_ : natText n = natText (n / 10) ++ [(n % 10).digitChar] :=
          Nat.toDigits_of_base_le (by decide) (by omega)
        rw [split_, List.head?_append_of_ne_nil _ (natText_ne_nil _)]
        exact ih (n / 10) (by omega) (by omega)

namespace Json

def PastDigits (tail : List Char) : Prop := ∀ c, tail.head? = some c → c.isDigit = false

theorem EndsValue.pastDigits {tail : List Char} (ends : EndsValue tail) : PastDigits tail := by
  cases ends with
  | nothing => exact nofun
  | sign c rest known =>
      rintro _ ⟨⟩
      have table : ∀ c ∈ [',', ']', '\x7d'], c.isDigit = false := by simp
      exact table c known

theorem digitRun_past (tail : List Char) (past : PastDigits tail) : digitRun tail = [] := by
  unfold digitRun
  cases tail with
  | nil => rfl
  | cons c tail => rw [List.takeWhile_cons_of_neg (by simp [past c rfl])]

theorem digitsWithin_past (tail : List Char) (past : PastDigits tail) (value taken : Nat) :
    digitsWithin value taken tail = (value, taken, tail) := by
  cases tail with
  | nil => rfl
  | cons c tail =>
      have other : digitValue? c = none := by
        unfold digitValue?
        rw [past c rfl, if_neg Bool.false_ne_true]
      simp [digitsWithin, other]

-- By induction on the digits; no total on the way is larger than the last one.
theorem digitsWithin_run (digits tail : List Char) (all : ∀ c ∈ digits, c.isDigit = true)
    (past : PastDigits tail) (value taken : Nat)
    (small : Nat.ofDigitChars 10 digits value < Nat.pow 2 64) :
    digitsWithin value taken (digits ++ tail) =
      (Nat.ofDigitChars 10 digits value, taken + digits.length, tail) := by
  induction digits generalizing value taken with
  | nil => exact digitsWithin_past tail past value taken
  | cons c digits ih =>
      obtain ⟨first, others⟩ := List.forall_mem_cons.mp all
      have known : digitValue? c = some (c.toNat - '0'.toNat) := if_pos first
      rw [Nat.ofDigitChars_cons, Nat.mul_comm] at small
      have fits : value * 10 + (c.toNat - '0'.toNat) < Nat.pow 2 64 := by
        rw [Nat.ofDigitChars_eq_ofDigitChars_zero] at small
        refine Nat.lt_of_le_of_lt ?_ small
        exact Nat.le_trans (Nat.le_mul_of_pos_left _ (Nat.pow_pos (by decide))) (Nat.le_add_right _ _)
      rw [List.cons_append, digitsWithin, known]
      dsimp only
      rw [if_pos fits, ih others _ _ small, Nat.ofDigitChars_cons, Nat.mul_comm, List.length_cons]
      congr 2
      omega

theorem digitsWithin_natText (n : Nat) (small : n < Nat.pow 2 64) (tail : List Char)
    (past : PastDigits tail) : digitsWithin 0 0 (natText n ++ tail) = (n, (natText n).length, tail) := by
  have same : Nat.ofDigitChars 10 (natText n) 0 = n := Nat.ofDigitChars_ten_toDigits
  rw [digitsWithin_run _ tail (Text.natText_digits n) past 0 0 (by rwa [same]), same, Nat.zero_add]

def signedWhole (negative : Bool) (n : Nat) : Number := .whole (if negative then -(n : Int) else n)

def afterDigits (negative : Bool) (length value taken : Nat) (after : List Char) : Numeral :=
  let spare := digitRun after
  let rest := after.drop spare.length
  let total := length + taken + spare.length
  match rest with
  | '.' :: more => fractionPart negative value spare.length (total + 1) more
  | 'e' :: more => exponentPart negative value spare.length (total + 1) more
  | 'E' :: more => exponentPart negative value spare.length (total + 1) more
  | _ =>
      if spare.isEmpty = false then .read total (scaled? negative value spare.length)
      else if negative = false then .read total (some (.whole value))
      else if value = 0 ∨ Nat.pow 2 63 < value then
        .read total (some (.real (.ofFloat (-(Float.ofNat value)))))
      else .read total (some (.whole (-(value : Int))))

theorem afterDigits_ended (negative : Bool) (length value taken : Nat) (tail : List Char)
    (ends : EndsValue tail) (fits : negative = true → 0 < value ∧ value ≤ Nat.pow 2 63) :
    afterDigits negative length value taken tail =
      .read (length + taken) (some (signedWhole negative value)) := by
  have unmarked : ∀ c more, tail = c :: more → c ∈ [',', ']', '\x7d'] := by
    rintro c more rfl
    cases ends with
    | sign c rest known => exact known
  unfold afterDigits
  rw [digitRun_past tail ends.pastDigits]
  dsimp only [List.length_nil, List.drop_zero, Nat.add_zero]
  -- Neither a fraction nor an exponent follows.
  split
  · rename_i same
    exact absurd (unmarked '.' _ same) (by decide)
  · rename_i same
    exact absurd (unmarked 'e' _ same) (by decide)
  · rename_i same
    exact absurd (unmarked 'E' _ same) (by decide)
  · rw [if_neg (by decide)]
    cases negative with
    | false => rfl
    | true =>
        have bounds := fits rfl
        rw [if_neg (by decide), if_neg (by omega)]
        rfl

theorem numeral_eq (negative : Bool) (length : Nat) (c : Char) (rest : List Char) (digit : c.isDigit = true)
    (led : ¬ (c = '0' ∧ rest.head?.map Char.isDigit = some true)) :
    numeral negative length (c :: rest) =
      let part := digitsWithin 0 0 (if c = '0' then ['0'] else c :: rest)
      afterDigits negative length part.1 part.2.1 (if c = '0' then rest else part.2.2) := by
  rw [numeral, if_neg (by simp [digit]), if_neg led]
  rfl

theorem numeral_natText (negative : Bool) (length n : Nat) (small : n < Nat.pow 2 64) (tail : List Char)
    (ends : EndsValue tail) (fits : negative = true → 0 < n ∧ n ≤ Nat.pow 2 63) :
    numeral negative length (natText n ++ tail) =
      .read (length + (natText n).length) (some (signedWhole negative n)) := by
  have past := ends.pastDigits
  obtain ⟨c, rest, shape⟩ := List.exists_cons_of_ne_nil (Text.natText_ne_nil n)
  have digit : c.isDigit = true := Text.natText_digits n c (by rw [shape]; exact List.mem_cons_self)
  by_cases zero : c = '0'
  · obtain rfl : n = 0 := by
      by_contra some_
      exact Text.natText_head n (Nat.pos_of_ne_zero some_) (by rw [shape, zero]; rfl)
    change numeral negative length ('0' :: tail) = _
    rw [numeral_eq negative length '0' tail rfl]
    · exact afterDigits_ended negative length 0 1 tail ends fits
    · rintro ⟨-, follows⟩
      obtain ⟨d, first, isDigit⟩ := Option.map_eq_some_iff.mp follows
      rw [past d first] at isDigit
      cases isDigit
  · rw [shape, List.cons_append, numeral_eq negative length c _ digit fun both => zero both.1]
    dsimp only
    rw [if_neg zero, if_neg zero, ← List.cons_append, ← shape, digitsWithin_natText n small tail past]
    exact afterDigits_ended negative length n _ tail ends fits

/-! ## Values -/

theorem Cursor.advance_rest (taken tail : List Char) (cur : Cursor) (here : cur.rest = taken ++ tail) :
    (cur.advance taken).rest = tail := by
  induction taken generalizing cur with
  | nil => exact here
  | cons c taken ih =>
      apply ih
      rw [Cursor.step_rest, here]
      rfl

def StartsNumber (c : Char) : Prop := c = '-' ∨ c.isDigit = true

instance (c : Char) : Decidable (StartsNumber c) :=
  inferInstanceAs (Decidable (c = '-' ∨ c.isDigit = true))

theorem StartsNumber.solid {c : Char} (starts : StartsNumber c) : Cursor.isBlank c = false := by
  simp only [Cursor.isBlank, Bool.or_eq_false_iff, beq_eq_false_iff_ne]
  refine ⟨⟨⟨?_, ?_⟩, ?_⟩, ?_⟩
  all_goals
    rintro rfl
    exact absurd starts (by decide)

theorem nodeAt_number (fuel depth : Nat) (cur : Cursor) (c : Char) (rest : List Char) (length : Nat)
    (n : Number) (here : cur.rest = c :: rest) (starts : StartsNumber c)
    (said : (if c = '-' then numeral true 1 rest else numeral false 0 (c :: rest)) =
      .read length (some n)) :
    let after := cur.advance ((c :: rest).take length)
    nodeAt (fuel + 1) depth cur = (.number (some cur.place) (some after.place) (.ok n), some after) := by
  intro after
  rw [nodeAt, Cursor.skipBlanks_at cur c rest here starts.solid, here]
  dsimp only
  -- No other value begins like a number.
  split
  · exact absurd starts (by decide)
  · exact absurd starts (by decide)
  · exact absurd starts (by decide)
  · exact absurd starts (by decide)
  · exact absurd starts (by decide)
  · exact absurd starts (by decide)
  · rw [if_pos (show c = '-' ∨ c.isDigit = true from starts), said]

theorem readsBack_numeral (depth : Nat) (n : Number) (c : Char) (rest : List Char)
    (shape : n.text = c :: rest) (starts : StartsNumber c)
    (said : ∀ tail, EndsValue tail →
      (if c = '-' then numeral true 1 (rest ++ tail) else numeral false 0 (c :: (rest ++ tail))) =
        .read (c :: rest).length (some n)) : ReadsBack depth (.number n) := by
  intro fuel cur tail ends here enough
  obtain ⟨fuel, rfl⟩ := Nat.exists_eq_succ_of_ne_zero (Nat.ne_zero_of_lt enough)
  have written : cur.rest = (c :: rest) ++ tail := by
    rw [here, Value.chars, shape]
  have read := nodeAt_number fuel depth cur c (rest ++ tail) _ n written starts (said tail ends)
  refine ⟨_, _, read, ?_, .number _ _ n⟩
  apply Cursor.advance_rest
  rw [← List.cons_append, List.take_left, written]

end Json

end AccessGate
