import AccessGate.Proofs.Text
import AccessGate.Rule.Template

/-!
Templates as sequences of pieces. Every template has exactly one reading from left to right, in which the
groups have no part, and it expands to what its pieces stand for, one after the other.
-/

namespace AccessGate.Template

/-- A piece of a template: two dollar signs, a place for a group with or without braces, a dollar sign that
is neither, or another character. -/
inductive Piece where
  | doubled
  | group (digits : List Char)
  | braced (digits : List Char)
  | lone
  | plain (c : Char)
  deriving DecidableEq, Repr

/-- What a group of a number stands for: its text, or nothing when there is no such group, when it took no
part, or when the number is too large for 64 bits. -/
def groupValue (groups : Groups) (index : Nat) : List Char :=
  match groups[index]? with
  | some (some text) => if index < Nat.pow 2 64 then text else []
  | _ => []

namespace Piece

/-- How a piece is written. -/
def text : Piece → List Char
  | doubled => ['$', '$']
  | group digits => '$' :: digits
  | braced digits => '$' :: '\x7b' :: (digits ++ ['\x7d'])
  | lone => ['$']
  | plain c => [c]

/-- What a piece stands for. -/
def value (groups : Groups) : Piece → List Char
  | doubled => ['$']
  | group digits => groupValue groups (Nat.ofDigitChars 10 digits 0)
  | braced digits => groupValue groups (Nat.ofDigitChars 10 digits 0)
  | lone => ['$']
  | plain c => [c]

end Piece

/-! ## Readings -/

structure IsNumeral (digits : List Char) : Prop where
  some_ : digits ≠ []
  all : ∀ c ∈ digits, c.isDigit = true

/-- Whether a text makes the dollar sign in front of it the start of something longer. -/
inductive Opens (cs : List Char) : Prop where
  | sign (rest : List Char) (shape : cs = '$' :: rest)
  | digit (c : Char) (rest : List Char) (shape : cs = c :: rest) (digit : c.isDigit = true)
  | brace (digits rest : List Char) (shape : cs = '\x7b' :: (digits ++ '\x7d' :: rest))
      (numeral : IsNumeral digits)

/-- The piece that a dollar sign begins in front of a text, and what is left of the text. A run of digits is
taken as a whole. -/
inductive Begins (cs : List Char) : Piece → List Char → Prop where
  | doubled (rest : List Char) (shape : cs = '$' :: rest) : Begins cs .doubled rest
  | group (digits rest : List Char) (shape : cs = digits ++ rest) (numeral : IsNumeral digits)
      (maximal : ∀ c, rest.head? = some c → c.isDigit = false) : Begins cs (.group digits) rest
  | braced (digits rest : List Char) (shape : cs = '\x7b' :: (digits ++ '\x7d' :: rest))
      (numeral : IsNumeral digits) : Begins cs (.braced digits) rest
  | lone (bare : ¬ Opens cs) : Begins cs .lone cs

/-- The readings of a template, from left to right. -/
inductive Splits : List Char → List Piece → Prop where
  | done : Splits [] []
  | sign {cs rest : List Char} {piece : Piece} {pieces : List Piece} (begins : Begins cs piece rest)
      (more : Splits rest pieces) : Splits ('$' :: cs) (piece :: pieces)
  | plain {c : Char} {rest : List Char} {pieces : List Piece} (other : c ≠ '$')
      (more : Splits rest pieces) : Splits (c :: rest) (.plain c :: pieces)

theorem IsNumeral.first {digits : List Char} (numeral : IsNumeral digits) :
    ∃ c more, digits = c :: more ∧ c.isDigit = true := by
  obtain ⟨c, more, rfl⟩ := List.exists_cons_of_ne_nil numeral.some_
  exact ⟨c, more, rfl, numeral.all c List.mem_cons_self⟩

theorem IsNumeral.taken {digits rest : List Char} (numeral : IsNumeral digits)
    (stop : ∀ c, rest.head? = some c → c.isDigit = false) :
    (digits ++ rest).takeWhile Char.isDigit = digits :=
  Text.takeWhile_all Char.isDigit digits rest numeral.all stop

theorem IsNumeral.braced_taken {digits : List Char} (numeral : IsNumeral digits) (rest : List Char) :
    (digits ++ '\x7d' :: rest).takeWhile Char.isDigit = digits := by
  apply numeral.taken
  rintro c ⟨⟩
  decide

theorem isNumeral_takeWhile {cs : List Char} (some_ : cs.takeWhile Char.isDigit ≠ []) :
    IsNumeral (cs.takeWhile Char.isDigit) :=
  ⟨some_, Text.mem_takeWhile Char.isDigit cs⟩

/-! ## What begins at a dollar sign -/

namespace Begins

theorem text {cs rest : List Char} {piece : Piece} (begins : Begins cs piece rest) :
    '$' :: cs = piece.text ++ rest := by
  cases begins with
  | doubled rest shape => rw [shape]; rfl
  | group digits rest shape numeral maximal => rw [shape]; rfl
  | braced digits rest shape numeral => simp [shape, Piece.text]
  | lone bare => rfl

theorem opens {cs rest : List Char} {piece : Piece} (begins : Begins cs piece rest)
    (other : piece ≠ .lone) : Opens cs := by
  cases begins with
  | doubled rest shape => exact .sign rest shape
  | group digits rest shape numeral maximal =>
      obtain ⟨c, more, first, digit⟩ := numeral.first
      exact .digit c (more ++ rest) (by rw [shape, first]; rfl) digit
  | braced digits rest shape numeral => exact .brace digits rest shape numeral
  | lone bare => exact absurd rfl other

theorem first_digit {cs digits rest : List Char} (begins : Begins cs (.group digits) rest) :
    ∃ c more, cs = c :: more ∧ c.isDigit = true := by
  cases begins with
  | group digits rest shape numeral maximal =>
      obtain ⟨c, more, first, digit⟩ := numeral.first
      exact ⟨c, more ++ rest, by rw [shape, first]; rfl, digit⟩

theorem unique {cs rest other : List Char} {piece another : Piece} (begins : Begins cs piece rest)
    (also : Begins cs another other) : another = piece ∧ other = rest := by
  -- What the first character makes the piece to be, the other piece is too.
  cases begins with
  | doubled rest shape =>
      subst shape
      cases also with
      | doubled other shape =>
          cases shape
          exact ⟨rfl, rfl⟩
      | group digits other shape numeral maximal =>
          obtain ⟨c, more, first, digit⟩ := (Begins.group digits other shape numeral maximal).first_digit
          cases first
          exact absurd digit (by decide)
      | braced digits other shape numeral => cases shape
      | lone bare => exact absurd (.sign rest rfl) bare
  | group digits rest shape numeral maximal =>
      have begins := Begins.group digits rest shape numeral maximal
      obtain ⟨c, more, first, digit⟩ := begins.first_digit
      cases also with
      | doubled other also =>
          cases first.symm.trans also
          exact absurd digit (by decide)
      | group others other also also_numeral also_maximal =>
          subst shape
          have same : others = digits := by
            rw [← also_numeral.taken also_maximal, ← also, numeral.taken maximal]
          subst same
          exact ⟨rfl, (List.append_cancel_left also).symm⟩
      | braced others other also _ =>
          cases first.symm.trans also
          exact absurd digit (by decide)
      | lone bare => exact absurd (begins.opens nofun) bare
  | braced digits rest shape numeral =>
      subst shape
      cases also with
      | doubled other shape => cases shape
      | group others other shape also_numeral maximal =>
          obtain ⟨c, more, first, digit⟩ :=
            (Begins.group others other shape also_numeral maximal).first_digit
          cases first
          exact absurd digit (by decide)
      | braced others other shape also_numeral =>
          have inside := (List.cons.inj shape).2
          have same : others = digits := by
            rw [← also_numeral.braced_taken other, ← inside, numeral.braced_taken rest]
          subst same
          cases List.append_cancel_left inside
          exact ⟨rfl, rfl⟩
      | lone bare => exact absurd (.brace digits rest rfl numeral) bare
  | lone bare =>
      by_cases same : another = .lone
      · subst same
        cases also
        exact ⟨rfl, rfl⟩
      · exact absurd (also.opens same) bare

end Begins

theorem groupText_numeral (groups : Groups) (digits : List Char) (numeral : IsNumeral digits) :
    groupText groups digits = groupValue groups (Nat.ofDigitChars 10 digits 0) := by
  unfold groupText groupValue
  rw [Text.natural?_digits digits numeral.some_ numeral.all, Text.valueIn_digits digits numeral.all]
  dsimp only
  cases groups[Nat.ofDigitChars 10 digits 0]? with
  | none => simp
  | some group =>
      cases group with
      | none => simp
      | some text => simp

theorem placeholder_begins (groups : Groups) (cs : List Char) :
    ∃ piece, Begins cs piece (placeholder groups cs).2 ∧
      (placeholder groups cs).1 = piece.value groups := by
  unfold placeholder
  split
  next rest => exact ⟨.doubled, .doubled rest rfl, rfl⟩
  next rest =>
    have parts : rest.takeWhile Char.isDigit ++ rest.drop (rest.takeWhile Char.isDigit).length = rest := by
      rw [Text.drop_takeWhile, List.takeWhile_append_dropWhile]
    simp only
    split
    next d more behind taken left =>
      have numeral : IsNumeral (rest.takeWhile Char.isDigit) :=
        isNumeral_takeWhile (by rw [taken]; exact List.cons_ne_nil d more)
      refine ⟨.braced (rest.takeWhile Char.isDigit), .braced _ behind ?_ numeral, ?_⟩
      · rw [← left, parts]
      · exact groupText_numeral groups _ numeral
    next unbraced =>
      refine ⟨.lone, .lone ?_, rfl⟩
      intro opens
      cases opens with
      | sign rest shape => cases shape
      | digit c rest shape digit =>
          cases shape
          exact absurd digit (by decide)
      | brace digits behind shape numeral =>
          cases shape
          obtain ⟨c, more, first, -⟩ := numeral.first
          rw [numeral.braced_taken behind] at unbraced
          exact unbraced c more behind first List.drop_left
  next not_sign not_brace =>
    simp only
    split
    next empty =>
      refine ⟨.lone, .lone ?_, rfl⟩
      intro opens
      cases opens with
      | sign rest shape => exact not_sign rest shape
      | digit c rest shape digit =>
          rw [shape, List.takeWhile_cons_of_pos digit] at empty
          cases empty
      | brace digits behind shape numeral => exact not_brace _ shape
    next filled =>
      have numeral : IsNumeral (cs.takeWhile Char.isDigit) :=
        isNumeral_takeWhile (by simpa using filled)
      refine ⟨.group (cs.takeWhile Char.isDigit), .group _ _ ?_ numeral ?_, ?_⟩
      · rw [Text.drop_takeWhile, List.takeWhile_append_dropWhile]
      · rw [Text.drop_takeWhile]
        exact Text.head?_dropWhile Char.isDigit cs
      · exact groupText_numeral groups _ numeral

/-! ## Whole templates -/

namespace Splits

theorem exists_split (template : List Char) : ∃ pieces, Splits template pieces := by
  induction template using expand.induct [] with
  | case1 => exact ⟨[], .done⟩
  | case2 rest found ih =>
      obtain ⟨piece, begins, -⟩ := placeholder_begins [] rest
      obtain ⟨pieces, more⟩ := ih
      exact ⟨piece :: pieces, .sign begins more⟩
  | case3 c rest other ih =>
      obtain ⟨pieces, more⟩ := ih
      exact ⟨.plain c :: pieces, .plain other more⟩

variable {template : List Char} {pieces : List Piece}

theorem unique (split : Splits template pieces) (others : List Piece) (also : Splits template others) :
    others = pieces := by
  induction split generalizing others with
  | done =>
      cases also
      rfl
  | sign begins more ih =>
      cases also with
      | sign other rest =>
          obtain ⟨rfl, rfl⟩ := begins.unique other
          rw [ih _ rest]
      | plain other rest => exact absurd rfl other
  | plain other more ih =>
      cases also with
      | sign begins rest => exact absurd rfl other
      | plain _ rest => rw [ih _ rest]

theorem text (split : Splits template pieces) : pieces.flatMap Piece.text = template := by
  induction split with
  | done => rfl
  | sign begins more ih => rw [List.flatMap_cons, ih, begins.text]
  | plain other more ih => rw [List.flatMap_cons, ih]; rfl

theorem expand (split : Splits template pieces) (groups : Groups) :
    expand groups template = pieces.flatMap (Piece.value groups) := by
  induction split with
  | done => rw [Template.expand]; rfl
  | sign begins more ih =>
      rename_i cs rest piece pieces
      obtain ⟨found, here, value⟩ := placeholder_begins groups cs
      obtain ⟨rfl, same⟩ := begins.unique here
      rw [Template.expand, if_pos rfl, List.flatMap_cons]
      simp only [value, same, ih]
  | plain other more ih =>
      rw [Template.expand, if_neg other, List.flatMap_cons, ih]
      rfl

end Splits

/-- A text with two dollar signs for each one. -/
def doubled (text : List Char) : List Char :=
  text.flatMap fun c => if c = '$' then ['$', '$'] else [c]

theorem expand_doubled (groups : Groups) (text : List Char) : expand groups (doubled text) = text := by
  induction text with
  | nil => rw [doubled, List.flatMap_nil, expand]
  | cons c text ih =>
      rw [doubled] at ih
      by_cases sign : c = '$'
      · rw [doubled, List.flatMap_cons, if_pos sign, sign, List.cons_append, List.cons_append, expand]
        simp only [placeholder, if_true]
        exact congrArg ('$' :: ·) ih
      · rw [doubled, List.flatMap_cons, if_neg sign, List.singleton_append, expand, if_neg sign, ih]

/-- A template expands to what its pieces stand for, one after the other. What the pieces are does not depend
on the groups, and together they are the whole template. Doubling its dollar signs makes a template of any
text. -/
theorem expand_pieces (template : List Char) :
    (∃ pieces, (∀ others, Splits template others ↔ others = pieces) ∧
      pieces.flatMap Piece.text = template ∧
      ∀ groups, expand groups template = pieces.flatMap (Piece.value groups)) ∧
    ∀ groups, expand groups (doubled template) = template := by
  obtain ⟨pieces, split⟩ := Splits.exists_split template
  refine ⟨⟨pieces, fun others => ⟨split.unique others, ?_⟩, split.text, split.expand⟩,
    fun groups => expand_doubled groups template⟩
  rintro rfl
  exact split

-- Signs in the text of a group are not looked at again.
example : expand [some "all".toList, some "$0".toList, none] "$1:$\x7b2\x7d$9 $$5$".toList =
    "$0: $5$".toList := by
  decide +kernel

end AccessGate.Template
