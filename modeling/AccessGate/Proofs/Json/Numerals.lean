import AccessGate.Proofs.Json.Whole

/-!
Numbers as a part of a text. What a number's own text says is also said in front of anything that can stand
behind a value, so a number is read back in any place when its text alone is.
-/

namespace AccessGate.Json

open Text (digitValue? valueIn)

/-! ## Digits -/

theorem digitRun_append (cs tail : List Char) (past : PastDigits tail) :
    digitRun (cs ++ tail) = digitRun cs := by
  unfold digitRun
  induction cs with
  | nil => exact digitRun_past tail past
  | cons c cs ih =>
      rw [List.cons_append, List.takeWhile_cons, List.takeWhile_cons, ih]

theorem drop_digitRun (cs tail : List Char) :
    (cs ++ tail).drop (digitRun cs).length = cs.drop (digitRun cs).length ++ tail :=
  List.drop_append_of_le_length (List.takeWhile_prefix _).length_le

theorem digitsWithin_append (cs tail : List Char) (past : PastDigits tail) (value taken : Nat) :
    digitsWithin value taken (cs ++ tail) =
      ((digitsWithin value taken cs).1, (digitsWithin value taken cs).2.1,
        (digitsWithin value taken cs).2.2 ++ tail) := by
  induction cs generalizing value taken with
  | nil => exact digitsWithin_past tail past value taken
  | cons c cs ih =>
      rw [List.cons_append, digitsWithin, digitsWithin]
      cases digitValue? c with
      | none => rfl
      | some d =>
          dsimp only
          split
          · exact ih _ _
          · rfl

/-! ## Parts of a number -/

def Unmarked (cs : List Char) : Prop := ∀ c, cs.head? = some c → c ∉ ['.', 'e', 'E', '+', '-']

theorem EndsValue.unmarked {tail : List Char} (ends : EndsValue tail) : Unmarked tail := by
  cases ends with
  | nothing => exact nofun
  | sign c rest known =>
      rintro _ ⟨⟩
      simp only [List.mem_cons, List.not_mem_nil, or_false] at known
      rcases known with rfl | rfl | rfl
      all_goals decide

def exponentDigits (negative minus : Bool) (value : Nat) (power : Int) (length : Nat)
    (digits : List Char) : Numeral :=
  match digits with
  | [] => .fault .endInValue length false
  | c :: _ =>
      if c.isDigit then
        let run := digitRun digits
        let size := valueIn 10 (run.filterMap digitValue?)
        let total := length + run.length
        if size < Nat.pow 2 31 then
          .read total (scaled? negative value (if minus then power - size else power + size))
        else if value = 0 ∨ minus then
          .read total (some (.real (.ofFloat (if negative then -0.0 else 0.0))))
        else .read total none
      else .fault .badNumber (length + 1) false

theorem exponentPart_cons (negative : Bool) (value : Nat) (power : Int) (length : Nat) (c : Char)
    (rest : List Char) :
    exponentPart negative value power length (c :: rest) =
      if c = '+' ∨ c = '-' then exponentDigits negative (c == '-') value power (length + 1) rest
      else exponentDigits negative false value power length (c :: rest) := by
  by_cases plus : c = '+'
  · subst plus
    rfl
  · by_cases minus : c = '-'
    · subst minus
      rfl
    · rw [if_neg (by simp [plus, minus])]
      have unsigned : ((c :: rest).head? == some '-') = false := by simp [minus]
      unfold exponentPart
      rw [unsigned]
      split
      · rename_i same
        cases same
        exact absurd rfl plus
      · rename_i same
        cases same
        exact absurd rfl minus
      · rfl

variable {tail : List Char} (ends : EndsValue tail) {size : Nat} {said : Option Number}
include ends

theorem exponentDigits_append (negative minus : Bool) (value : Nat) (power : Int) (length : Nat)
    (digits : List Char) (read : exponentDigits negative minus value power length digits = .read size said) :
    exponentDigits negative minus value power length (digits ++ tail) = .read size said := by
  cases digits with
  | nil => cases read
  | cons c rest =>
      have run := digitRun_append (c :: rest) tail ends.pastDigits
      rw [List.cons_append] at run ⊢
      unfold exponentDigits at read ⊢
      dsimp only at read ⊢
      rw [run]
      exact read

theorem exponentPart_append (negative : Bool) (value : Nat) (power : Int) (length : Nat) (cs : List Char)
    (read : exponentPart negative value power length cs = .read size said) :
    exponentPart negative value power length (cs ++ tail) = .read size said := by
  cases cs with
  | nil => cases read
  | cons c rest =>
      rw [List.cons_append, exponentPart_cons]
      rw [exponentPart_cons] at read
      split
      · rename_i signed
        rw [if_pos signed] at read
        exact exponentDigits_append ends _ _ _ _ _ _ read
      · rename_i unsigned
        rw [if_neg unsigned] at read
        exact exponentDigits_append ends _ _ _ _ _ _ read

theorem marked_inside (rest more : List Char) (mark : Char) (known : mark ∈ ['.', 'e', 'E', '+', '-'])
    (same : rest ++ tail = mark :: more) : ∃ inner, rest = mark :: inner ∧ more = inner ++ tail := by
  cases rest with
  | nil =>
      rw [List.nil_append] at same
      exact absurd known (ends.unmarked mark (by rw [same]; rfl))
  | cons c inner =>
      rw [List.cons_append] at same
      cases same
      exact ⟨inner, rfl, rfl⟩

theorem fractionPart_append (negative : Bool) (value : Nat) (power : Int) (length : Nat) (cs : List Char)
    (read : fractionPart negative value power length cs = .read size said) :
    fractionPart negative value power length (cs ++ tail) = .read size said := by
  have part := digitsWithin_append cs tail ends.pastDigits value 0
  have run := digitRun_append (digitsWithin value 0 cs).2.2 tail ends.pastDigits
  unfold fractionPart at read ⊢
  rw [part]
  dsimp only at read ⊢
  rw [run, drop_digitRun]
  generalize digitRun (digitsWithin value 0 cs).2.2 = spare at read ⊢
  generalize (digitsWithin value 0 cs).2.2.drop spare.length = rest at read ⊢
  split at read
  · split at read <;> cases read
  · rename_i some_
    rw [if_neg some_]
    split
    · rename_i more same
      obtain ⟨inner, rfl, rfl⟩ := marked_inside ends rest _ 'e' (by decide) same
      exact exponentPart_append ends _ _ _ _ _ read
    · rename_i more same
      obtain ⟨inner, rfl, rfl⟩ := marked_inside ends rest _ 'E' (by decide) same
      exact exponentPart_append ends _ _ _ _ _ read
    · rename_i noSmall noLarge
      split at read
      · exact absurd rfl (noSmall _)
      · exact absurd rfl (noLarge _)
      · exact read

theorem afterDigits_append (negative : Bool) (length value taken : Nat) (after : List Char)
    (read : afterDigits negative length value taken after = .read size said) :
    afterDigits negative length value taken (after ++ tail) = .read size said := by
  have run := digitRun_append after tail ends.pastDigits
  unfold afterDigits at read ⊢
  dsimp only at read ⊢
  rw [run, drop_digitRun]
  generalize digitRun after = spare at read ⊢
  generalize after.drop spare.length = rest at read ⊢
  split
  · rename_i more same
    obtain ⟨inner, rfl, rfl⟩ := marked_inside ends rest _ '.' (by decide) same
    exact fractionPart_append ends _ _ _ _ _ read
  · rename_i more same
    obtain ⟨inner, rfl, rfl⟩ := marked_inside ends rest _ 'e' (by decide) same
    exact exponentPart_append ends _ _ _ _ _ read
  · rename_i more same
    obtain ⟨inner, rfl, rfl⟩ := marked_inside ends rest _ 'E' (by decide) same
    exact exponentPart_append ends _ _ _ _ _ read
  · rename_i noPoint noSmall noLarge
    split at read
    · exact absurd rfl (noPoint _)
    · exact absurd rfl (noSmall _)
    · exact absurd rfl (noLarge _)
    · exact read

theorem numeral_append (negative : Bool) (length : Nat) (cs : List Char)
    (read : numeral negative length cs = .read size said) :
    numeral negative length (cs ++ tail) = .read size said := by
  cases cs with
  | nil => cases read
  | cons c rest =>
      by_cases digit : c.isDigit = true
      case neg =>
        rw [numeral, if_pos (by simpa using digit)] at read
        cases read
      by_cases led : c = '0' ∧ rest.head?.map Char.isDigit = some true
      · rw [numeral, if_neg (by simp [digit]), if_pos led] at read
        cases read
      · have still : ¬ (c = '0' ∧ (rest ++ tail).head?.map Char.isDigit = some true) := by
          cases rest with
          | nil =>
              rintro ⟨-, follows⟩
              obtain ⟨d, first, isDigit⟩ := Option.map_eq_some_iff.mp follows
              rw [ends.pastDigits d first] at isDigit
              cases isDigit
          | cons d rest => exact led
        rw [numeral_eq negative length c rest digit led] at read
        rw [List.cons_append, numeral_eq negative length c _ digit still]
        dsimp only at read ⊢
        by_cases zero : c = '0'
        · rw [if_pos zero, if_pos zero] at read ⊢
          exact afterDigits_append ends _ _ _ _ _ read
        · rw [if_neg zero, if_neg zero] at read ⊢
          rw [← List.cons_append, digitsWithin_append _ tail ends.pastDigits]
          exact afterDigits_append ends _ _ _ _ _ read

omit ends

/-! ## Numbers -/

/-- What the characters of a number say when nothing stands behind them. -/
def Number.alone : List Char → Numeral
  | [] => .fault .endInValue 0 false
  | c :: rest => if c = '-' then numeral true 1 rest else numeral false 0 (c :: rest)

/-- A number that is said by its own text. -/
def Number.Legible (n : Number) : Prop := Number.alone n.text = .read n.text.length (some n)

theorem numeral_starts (negative : Bool) (length : Nat) (c : Char) (rest : List Char)
    (read : numeral negative length (c :: rest) = .read size said) : c.isDigit = true := by
  by_contra other
  rw [numeral, if_pos (by simpa using other)] at read
  cases read

theorem Number.Legible.starts {n : Number} (legible : n.Legible) :
    ∃ c rest, n.text = c :: rest ∧ StartsNumber c ∧
      (if c = '-' then numeral true 1 rest else numeral false 0 (c :: rest)) =
        .read (c :: rest).length (some n) := by
  unfold Legible at legible
  cases text : n.text with
  | nil =>
      rw [text] at legible
      cases legible
  | cons c rest =>
      rw [text] at legible
      refine ⟨c, rest, rfl, ?_, legible⟩
      by_cases signed : c = '-'
      · exact .inl signed
      · rw [alone, if_neg signed] at legible
        exact .inr (numeral_starts false 0 c rest legible)

theorem readsBack_legible (depth : Nat) (n : Number) (legible : n.Legible) :
    ReadsBack depth (.number n) := by
  obtain ⟨c, rest, shape, starts, alone⟩ := legible.starts
  refine readsBack_numeral depth n c rest shape starts fun tail ends => ?_
  by_cases signed : c = '-'
  · rw [if_pos signed] at alone ⊢
    exact numeral_append ends true 1 rest alone
  · rw [if_neg signed] at alone ⊢
    exact numeral_append ends false 0 (c :: rest) alone

theorem legible_whole (i : Int) (low : -(2 ^ 63) ≤ i) (high : i < 2 ^ 64) : (Number.whole i).Legible := by
  unfold Number.Legible
  cases i with
  | ofNat n =>
      have small : n < 2 ^ 64 := by
        rw [Int.ofNat_eq_natCast] at high
        omega
      obtain ⟨c, rest, shape⟩ := List.exists_cons_of_ne_nil (Text.natText_ne_nil n)
      have digit : c.isDigit = true := Text.natText_digits n c (by rw [shape]; exact List.mem_cons_self)
      have unsigned : c ≠ '-' := by
        rintro rfl
        cases digit
      have read := numeral_natText false 0 n small [] .nothing nofun
      rw [List.append_nil, Nat.zero_add] at read
      change Number.alone (Text.natText n) = .read (Text.natText n).length _
      rw [shape, Number.alone, if_neg unsigned, ← shape, read]
      rfl
  | negSucc n =>
      have small : n + 1 ≤ 2 ^ 63 := by omega
      have read := numeral_natText true 1 (n + 1) (Nat.lt_of_le_of_lt small (by decide)) [] .nothing
        fun _ => ⟨Nat.succ_pos n, small⟩
      rw [List.append_nil, Nat.add_comm 1] at read
      exact read

end AccessGate.Json
