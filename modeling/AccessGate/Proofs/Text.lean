import AccessGate.Text.Blank
import AccessGate.Text.Number
import Mathlib.Data.List.Forall2

/-!
Texts that are cut, texts in lower case, and numerals. What is cut off a text in front of a character
that stops the cut does not depend on what follows.
-/

namespace AccessGate.Text

theorem each_of_all (cs : List α) (p : α → Prop) [DecidablePred p]
    (checked : cs.all (p ·) = true) : ∀ c ∈ cs, p c := by
  intro c member
  exact of_decide_eq_true (List.all_eq_true.mp checked c member)

theorem takeWhile_append_stop (p : α → Bool) (a rest : List α)
    (stop : ∀ c, rest.head? = some c → p c = false) :
    (a ++ rest).takeWhile p = a.takeWhile p := by
  induction a with
  | nil =>
      cases rest with
      | nil => rfl
      | cons c rest => simp [stop c rfl]
  | cons d a ih => simp only [List.cons_append, List.takeWhile_cons, ih]

theorem takeWhile_all (p : α → Bool) (a rest : List α) (all : ∀ c ∈ a, p c = true)
    (stop : ∀ c, rest.head? = some c → p c = false) : (a ++ rest).takeWhile p = a := by
  rw [List.takeWhile_append_of_pos all]
  cases rest with
  | nil => simp
  | cons c rest => simp [stop c rfl]

theorem dropWhile_all (p : α → Bool) (a rest : List α) (all : ∀ c ∈ a, p c = true)
    (stop : ∀ c, rest.head? = some c → p c = false) : (a ++ rest).dropWhile p = rest := by
  rw [List.dropWhile_append_of_pos all]
  cases rest with
  | nil => rfl
  | cons c rest => simp [stop c rfl]

theorem mem_takeWhile (p : α → Bool) (a : List α) (c : α) (member : c ∈ a.takeWhile p) :
    p c = true :=
  List.all_eq_true.mp List.all_takeWhile c member

theorem head?_dropWhile (p : α → Bool) (a : List α) (c : α)
    (first : (a.dropWhile p).head? = some c) : p c = false := by
  have stopped := List.head?_dropWhile_not p a
  rw [first] at stopped
  simpa using stopped

theorem drop_takeWhile (p : α → Bool) (a : List α) :
    a.drop (a.takeWhile p).length = a.dropWhile p := by
  calc a.drop (a.takeWhile p).length
      = (a.takeWhile p ++ a.dropWhile p).drop (a.takeWhile p).length := by
        rw [List.takeWhile_append_dropWhile]
    _ = a.dropWhile p := List.drop_left

theorem takeWhile_mark (p : α → Bool) (mark : α) (stop : p mark = false) (a rest : List α) :
    (a ++ mark :: rest).takeWhile p = a.takeWhile p := by
  apply takeWhile_append_stop
  intro c first
  cases first
  exact stop

theorem drop_mark (p : α → Bool) (mark : α) (a rest : List α) :
    (a ++ mark :: rest).drop (a.takeWhile p).length = a.dropWhile p ++ mark :: rest := by
  rw [List.drop_append_of_le_length (List.takeWhile_prefix p).length_le, drop_takeWhile]

theorem dropWhile_mark (p : α → Bool) (mark : α) (stop : p mark = false) (a rest : List α) :
    (a ++ mark :: rest).dropWhile p = a.dropWhile p ++ mark :: rest := by
  rw [← drop_takeWhile, takeWhile_mark p mark stop, drop_mark]

theorem cut_at_failure (p : α → Bool) (a : List α) (fails : a.all p = false) :
    ∃ front c rest, a = front ++ c :: rest ∧ (∀ d ∈ front, p d = true) ∧ p c = false := by
  have parts : a.takeWhile p ++ a.dropWhile p = a := List.takeWhile_append_dropWhile
  cases dropped : a.dropWhile p with
  | nil =>
      have all : a.all p = true := by
        rw [← parts, dropped]
        simp
      rw [all] at fails
      cases fails
  | cons c rest =>
      refine ⟨a.takeWhile p, c, rest, ?_, mem_takeWhile p a, ?_⟩
      · rw [← dropped, parts]
      · exact head?_dropWhile p a c (by rw [dropped]; rfl)

theorem dropEnd_append (mark : Char) (front back : List Char) (kept : front.getLast? ≠ some mark) :
    dropEnd mark (front ++ back) = front ++ dropEnd mark back := by
  have whole : front.reverse.dropWhile (· == mark) = front.reverse := by
    cases backwards : front.reverse with
    | nil => rfl
    | cons c rest =>
        have last : c ≠ mark := by
          rintro rfl
          apply kept
          rw [← List.head?_reverse, backwards]
          rfl
        exact List.dropWhile_cons_of_neg (by simpa using last)
  unfold dropEnd
  rw [List.reverse_append, List.dropWhile_append]
  split
  · rename_i nothing
    have all := List.isEmpty_iff.mp nothing
    rw [whole, all]
    simp
  · simp

theorem mem_dropEnd (mark c : Char) (cs : List Char) (other : c ≠ mark) :
    c ∈ dropEnd mark cs ↔ c ∈ cs := by
  unfold dropEnd
  rw [List.mem_reverse]
  constructor
  · intro member
    exact List.mem_reverse.mp ((List.dropWhile_suffix _).subset member)
  · intro member
    have parts := List.takeWhile_append_dropWhile (p := (· == mark)) (l := cs.reverse)
    rw [← List.mem_reverse, ← parts, List.mem_append] at member
    refine member.resolve_left fun dropped => ?_
    exact other (beq_iff_eq.mp (mem_takeWhile _ _ c dropped))

/-! ## Letters and digits -/

theorem alpha_of_lower (c : Char) (low : c.isLower = true) : c.isAlpha = true := by
  unfold Char.isAlpha
  rw [low, Bool.or_true]

theorem alphanum_of_alpha (c : Char) (letter : c.isAlpha = true) : c.isAlphanum = true := by
  unfold Char.isAlphanum
  rw [letter, Bool.true_or]

theorem alphanum_range (c : Char) (known : c.isAlphanum = true) : 0x30 ≤ c.toNat ∧ c.toNat ≤ 0x7A := by
  unfold Char.isAlphanum Char.isAlpha Char.isUpper Char.isLower Char.isDigit at known
  simp only [Bool.or_eq_true, Bool.and_eq_true, decide_eq_true_eq, UInt32.le_iff_toNat_le] at known
  simp at known
  omega

theorem toLower_letter (c : Char) : c.toLower = c ∨ c.isUpper = true ∧ c.toLower.isLower = true := by
  by_cases upper : c.isUpper
  · right
    refine ⟨upper, ?_⟩
    unfold Char.isUpper at upper
    simp only [Bool.decide_and, Bool.and_eq_true, decide_eq_true_eq] at upper
    obtain ⟨low, high⟩ := upper
    have lowest := UInt32.le_iff_toNat_le.mp low
    have highest := UInt32.le_iff_toNat_le.mp high
    simp at lowest highest
    have shifted : (c.val + 32).toNat = c.val.toNat + 32 := by
      rw [UInt32.toNat_add]
      simp
      omega
    unfold Char.isLower Char.toLower
    simp only [dif_pos (And.intro low high)]
    simp [UInt32.le_iff_toNat_le]
    simp at shifted
    omega
  · left
    unfold Char.isUpper at upper
    unfold Char.toLower
    rw [decide_eq_true_eq] at upper
    exact dif_neg upper

theorem lower_all (p : Char → Bool) (letters : ∀ c, c.isAlpha = true → p c = true) (cs : List Char)
    (all : cs.all p = true) : (lower cs).all p = true := by
  rw [List.all_eq_true] at all ⊢
  intro c member
  obtain ⟨d, inside, rfl⟩ := List.mem_map.mp member
  rcases toLower_letter d with same | ⟨-, letter⟩
  · rw [same]
    exact all d inside
  · exact letters _ (alpha_of_lower _ letter)

/-! ## What stands behind the last mark -/

/-- A text in two parts, the second one behind the last mark. -/
structure Behind [DecidableEq α] (mark : α) (front last : List α) : Prop where
  unmarked : mark ∉ last
  ends : front = [] ∨ front.getLast? = some mark

theorem takeWhile_behind [DecidableEq α] (mark : α) (front last : List α)
    (behind : Behind mark front last) :
    (front ++ last).reverse.takeWhile (· != mark) = last.reverse := by
  rw [List.reverse_append]
  apply takeWhile_all
  · intro c member
    rw [bne_iff_ne]
    rintro rfl
    exact behind.unmarked (List.mem_reverse.mp member)
  · intro c first
    rw [List.head?_reverse] at first
    rcases behind.ends with rfl | ends
    · cases first
    · cases ends.symm.trans first
      simp

theorem last_unique [DecidableEq α] (mark : α) (front last front' last' : List α)
    (behind : Behind mark front last) (behind' : Behind mark front' last')
    (same : front ++ last = front' ++ last') : last = last' := by
  have taken := takeWhile_behind mark front last behind
  rw [same, takeWhile_behind mark front' last' behind'] at taken
  exact (List.reverse_inj.mp taken).symm

theorem first_unique [DecidableEq α] (mark : α) (front rest front' rest' : List α) (free : mark ∉ front)
    (free' : mark ∉ front') (same : front ++ mark :: rest = front' ++ mark :: rest') :
    front = front' ∧ rest = rest' := by
  have taken : ∀ front rest : List α, mark ∉ front →
      (front ++ mark :: rest).takeWhile (· != mark) = front := by
    intro front rest free
    apply takeWhile_all
    · intro c member
      exact bne_iff_ne.mpr fun marked => free (marked ▸ member)
    · intro c first
      cases first
      simp
  have fronts := congrArg (List.takeWhile (· != mark)) same
  rw [taken front rest free, taken front' rest' free'] at fronts
  subst fronts
  exact ⟨rfl, (List.cons.inj (List.append_cancel_left same)).2⟩

theorem pieces_some (mark : Char) (cs : List Char) : pieces mark cs ≠ [] := by
  cases cs with
  | nil => simp [pieces]
  | cons c cs =>
      simp only [pieces]
      split
      · simp
      · split
        · simp
        · simp

-- Pieces are put together from behind, so the induction is on what stands in front of the mark.
theorem pieces_append_mark (mark : Char) (front rest : List Char) :
    pieces mark (front ++ mark :: rest) = pieces mark front ++ pieces mark rest := by
  induction front with
  | nil => simp [pieces]
  | cons c front ih =>
      simp only [List.cons_append, pieces, ih]
      split
      · rfl
      · cases cut : pieces mark front with
        | nil => exact absurd cut (pieces_some mark front)
        | cons first others => rfl

theorem pieces_unmarked (mark : Char) (cs : List Char) (unmarked : mark ∉ cs) :
    pieces mark cs = [cs] := by
  induction cs with
  | nil => rfl
  | cons c cs ih =>
      have other : c ≠ mark := by
        rintro rfl
        exact unmarked List.mem_cons_self
      simp [pieces, other, ih fun inner => unmarked (List.mem_cons_of_mem _ inner)]

theorem pieces_behind (mark : Char) (front last : List Char) (behind : Behind mark front last) :
    (pieces mark (front ++ last)).getLast? = some last := by
  have alone := pieces_unmarked mark last behind.unmarked
  rcases behind.ends with rfl | ends
  · rw [List.nil_append, alone]
    rfl
  · obtain ⟨before, rfl⟩ := List.getLast?_eq_some_iff.mp ends
    rw [List.append_assoc, List.singleton_append, pieces_append_mark, alone]
    simp

theorem intercalate_behind (mark : Char) (parts : List (List Char)) (last : List Char)
    (unmarked : mark ∉ last) :
    ∃ front, [mark].intercalate (parts ++ [last]) = front ++ last ∧ Behind mark front last := by
  induction parts with
  | nil => exact ⟨[], by simp, unmarked, .inl rfl⟩
  | cons part parts ih =>
      obtain ⟨front, text, -, ends⟩ := ih
      refine ⟨part ++ mark :: front, ?_, unmarked, ?_⟩
      · obtain ⟨next, others, shape⟩ : ∃ next others, parts ++ [last] = next :: others := by
          cases parts with
          | nil => exact ⟨_, _, rfl⟩
          | cons next others => exact ⟨_, _, rfl⟩
        rw [List.cons_append, shape, List.intercalate_cons_cons, ← shape, text]
        simp
      · right
        rcases ends with rfl | ends
        · simp
        · rw [List.getLast?_append, List.getLast?_cons, ends]
          rfl

/-! ## Readers, member by member -/

theorem mapM_none (f : α → Option β) (cs : List α) (c : α) (member : c ∈ cs) (unread : f c = none) :
    cs.mapM f = none := by
  induction cs with
  | nil => cases member
  | cons d cs ih =>
      rw [List.mapM_cons]
      rcases List.mem_cons.mp member with rfl | later
      · rw [unread]
        rfl
      · rw [ih later]
        cases f d with
        | none => rfl
        | some value => rfl

theorem mapM_unread {f : α → Option β} {cs : List α} (failed : cs.mapM f = none) :
    ∃ c ∈ cs, f c = none := by
  induction cs with
  | nil => cases failed
  | cons c cs ih =>
      rw [List.mapM_cons] at failed
      cases first : f c with
      | none => exact ⟨c, List.mem_cons_self, first⟩
      | some value =>
          cases rest : cs.mapM f with
          | none =>
              obtain ⟨later, member, unread⟩ := ih rest
              exact ⟨later, List.mem_cons_of_mem _ member, unread⟩
          | some values =>
              rw [first, rest] at failed
              cases failed

theorem mapM_read {f : α → Option β} {cs : List α} {values : List β} (read : cs.mapM f = some values) :
    List.Forall₂ (fun c value => f c = some value) cs values := by
  induction cs generalizing values with
  | nil =>
      cases read
      exact .nil
  | cons c cs ih =>
      rw [List.mapM_cons] at read
      cases first : f c with
      | none =>
          rw [first] at read
          cases read
      | some value =>
          cases rest : cs.mapM f with
          | none =>
              rw [first, rest] at read
              cases read
          | some others =>
              rw [first, rest] at read
              cases read
              exact .cons first (ih rest)

theorem mapM_value {f : α → Option β} {cs : List α} {values : List β} (read : cs.mapM f = some values)
    (c : α) (member : c ∈ cs) : ∃ value ∈ values, f c = some value := by
  have pairs := mapM_read read
  clear read
  induction pairs with
  | nil => cases member
  | @cons d head cs tail first _ ih =>
      rcases List.mem_cons.mp member with rfl | later
      · exact ⟨head, List.mem_cons_self, first⟩
      · obtain ⟨value, listed, same⟩ := ih later
        exact ⟨value, List.mem_cons_of_mem _ listed, same⟩

/-! ## Numerals -/

theorem natText_digits (n : Nat) : ∀ c ∈ natText n, c.isDigit = true :=
  fun _ member => Nat.isDigit_of_mem_toDigits (by decide) (by decide) member

theorem natText_ne_nil (n : Nat) : natText n ≠ [] := Nat.toDigits_ne_nil

-- The total so far is generalized: the fold goes from the front.
theorem valueIn_digits (cs : List Char) (digits : ∀ c ∈ cs, c.isDigit = true) :
    valueIn 10 (cs.filterMap digitValue?) = Nat.ofDigitChars 10 cs 0 := by
  have from_total : ∀ total, (cs.filterMap digitValue?).foldl (fun total d => total * 10 + d) total =
      Nat.ofDigitChars 10 cs total := by
    induction cs with
    | nil => exact fun total => rfl
    | cons c cs ih =>
        intro total
        have first : digitValue? c = some (c.toNat - '0'.toNat) :=
          if_pos (digits c List.mem_cons_self)
        have rest := ih fun d member => digits d (List.mem_cons_of_mem _ member)
        rw [List.filterMap_cons_some first, List.foldl_cons, rest, Nat.ofDigitChars_cons,
          Nat.mul_comm]
  exact from_total 0

theorem natural?_digits (digits : List Char) (some_ : digits ≠ [])
    (all : ∀ c ∈ digits, c.isDigit = true) :
    natural? digits = some (valueIn 10 (digits.filterMap digitValue?)) := by
  have values : digits.mapM digitValue? = some (digits.filterMap digitValue?) := by
    clear some_
    induction digits with
    | nil => rfl
    | cons c digits ih =>
        have first : digitValue? c = some (c.toNat - '0'.toNat) :=
          if_pos (all c List.mem_cons_self)
        rw [List.mapM_cons, first, ih fun d member => all d (List.mem_cons_of_mem _ member)]
        simp [first]
  unfold natural?
  rw [values, if_neg (by simpa using some_)]
  rfl

theorem valueIn_natText (n : Nat) : valueIn 10 ((natText n).filterMap digitValue?) = n := by
  rw [valueIn_digits _ (natText_digits n)]
  exact Nat.ofDigitChars_ten_toDigits

end AccessGate.Text
