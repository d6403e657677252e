import AccessGate.Proofs.Text

/-!
The pieces of a text between its marks, and what is left of a text without the blanks around it. Both
are told by where they stand in the text.
-/

namespace AccessGate.Text

/-! ## Pieces -/

/-- A text cut at every mark, from its front on. -/
inductive CutAt (mark : Char) : List Char → List (List Char) → Prop where
  | last (piece : List Char) (unmarked : mark ∉ piece) : CutAt mark piece [piece]
  | more (piece rest : List Char) (others : List (List Char)) (unmarked : mark ∉ piece)
      (behind : CutAt mark rest others) : CutAt mark (piece ++ mark :: rest) (piece :: others)

theorem cutAt_pieces (mark : Char) (cs : List Char) : CutAt mark cs (pieces mark cs) := by
  induction cs with
  | nil => exact .last [] (by simp)
  | cons c cs ih =>
      by_cases marked : c = mark
      · subst marked
        simpa [pieces] using CutAt.more [] cs (pieces c cs) (by simp) ih
      · have apart : ∀ piece : List Char, mark ∉ piece → mark ∉ c :: piece := by
          intro piece unmarked
          simp [unmarked, Ne.symm marked]
        simp only [pieces, marked, ↓reduceIte]
        -- The character goes to the first piece, whichever way that one ends.
        generalize pieces mark cs = parts at ih ⊢
        cases ih with
        | last _ unmarked => exact .last _ (apart _ unmarked)
        | more piece rest others unmarked behind =>
            exact .more (c :: piece) rest others (apart piece unmarked) behind

/-- A piece of a text: a mark or the front of the text is ahead of it, a mark or the end behind it. -/
structure IsPiece (mark : Char) (front piece back : List Char) : Prop where
  ahead : Behind mark front piece
  behind : ∀ c, back.head? = some c → c = mark

theorem mem_pieces_iff (mark : Char) (cs piece : List Char) :
    piece ∈ pieces mark cs ↔
      ∃ front back, cs = front ++ (piece ++ back) ∧ IsPiece mark front piece back := by
  constructor
  · have cut := cutAt_pieces mark cs
    generalize pieces mark cs = parts at cut
    intro member
    induction cut with
    | last only unmarked =>
        cases List.mem_singleton.mp member
        exact ⟨[], [], by simp, ⟨unmarked, .inl rfl⟩, by simp⟩
    | more first rest others unmarked _ ih =>
        rcases List.mem_cons.mp member with rfl | later
        · exact ⟨[], mark :: rest, by simp, ⟨unmarked, .inl rfl⟩, by simp [eq_comm]⟩
        · obtain ⟨front, back, rfl, ahead, behind⟩ := ih later
          refine ⟨first ++ mark :: front, back, by simp, ⟨ahead.unmarked, .inr ?_⟩, behind⟩
          rcases ahead.ends with rfl | ends
          · simp
          · simp [List.getLast?_cons, ends]
  · rintro ⟨front, back, rfl, ahead, behind⟩
    have first : piece ∈ pieces mark (piece ++ back) := by
      cases back with
      | nil => simp [pieces_unmarked mark piece ahead.unmarked]
      | cons c back =>
          cases behind c rfl
          simp [pieces_append_mark, pieces_unmarked mark piece ahead.unmarked]
    rcases ahead.ends with rfl | ends
    · exact first
    · obtain ⟨before, rfl⟩ := List.getLast?_eq_some_iff.mp ends
      simp [pieces_append_mark, first]

/-! ## Blanks at the ends -/

/-- A text with nothing but blanks around a part that neither begins nor ends with one. -/
structure Trimmed (lead kept trail : List Char) : Prop where
  lead : ∀ c ∈ lead, isBlank c = true
  trail : ∀ c ∈ trail, isBlank c = true
  begins : ∀ c, kept.head? = some c → isBlank c = false
  ends : ∀ c, kept.getLast? = some c → isBlank c = false

theorem trim_of_trimmed (lead kept trail : List Char) (trimmed : Trimmed lead kept trail) :
    trim (lead ++ (kept ++ trail)) = kept := by
  have start : trimStart (lead ++ (kept ++ trail)) = (kept ++ trail).dropWhile isBlank :=
    List.dropWhile_append_of_pos trimmed.lead
  cases kept with
  | nil =>
      have gone : ([] ++ trail).dropWhile isBlank = [] := by
        simpa using dropWhile_all isBlank trail [] trimmed.trail (by simp)
      rw [trim, start, gone]
      rfl
  | cons c kept =>
      have first : (c :: kept ++ trail).dropWhile isBlank = c :: kept ++ trail :=
        List.dropWhile_cons_of_neg (by simp [trimmed.begins c rfl])
      have last : ((c :: kept ++ trail).reverse).dropWhile isBlank = (c :: kept).reverse := by
        rw [List.reverse_append]
        apply dropWhile_all
        · intro d member
          exact trimmed.trail d (List.mem_reverse.mp member)
        · intro d head
          exact trimmed.ends d (by rwa [List.head?_reverse] at head)
      rw [trim, start, first, trimEnd, last, List.reverse_reverse]

theorem exists_trimmed (cs : List Char) :
    ∃ lead trail, cs = lead ++ (trim cs ++ trail) ∧ Trimmed lead (trim cs) trail := by
  let start := trimStart cs
  let turned := start.reverse.takeWhile isBlank
  have parts : start = trim cs ++ turned.reverse := by
    have whole : turned ++ start.reverse.dropWhile isBlank = start.reverse :=
      List.takeWhile_append_dropWhile
    have back := congrArg List.reverse whole
    rw [List.reverse_append, List.reverse_reverse] at back
    exact back.symm
  refine ⟨cs.takeWhile isBlank, turned.reverse, ?_, mem_takeWhile isBlank cs, ?_, ?_, ?_⟩
  · rw [← parts]
    exact List.takeWhile_append_dropWhile.symm
  · intro c member
    exact mem_takeWhile isBlank _ c (List.mem_reverse.mp member)
  · intro c first
    apply head?_dropWhile isBlank cs c
    change start.head? = some c
    rw [parts, List.head?_append, first]
    rfl
  · intro c last
    apply head?_dropWhile isBlank start.reverse c
    rwa [← List.getLast?_reverse]

theorem trim_eq_iff (cs kept : List Char) :
    trim cs = kept ↔ ∃ lead trail, cs = lead ++ (kept ++ trail) ∧ Trimmed lead kept trail := by
  constructor
  · rintro rfl
    exact exists_trimmed cs
  · rintro ⟨lead, trail, rfl, trimmed⟩
    exact trim_of_trimmed lead kept trail trimmed

end AccessGate.Text
