import AccessGate.Proofs.Percent

/-!
Forms in texts that were encoded once more. A reader of forms finds the same names and values in a text and
in what an encoder of queries makes of it.
-/

namespace AccessGate

namespace Percent

open Text (hexValue? upperHexDigit)

/-- A text and another in which some characters stand as the escapes of their octets, none of them a sign
of an escape itself. -/
inductive Escaped : List Char → List Char → Prop where
  | nil : Escaped [] []
  | kept (c : Char) {plain coded : List Char} (rest : Escaped plain coded) :
      Escaped (c :: plain) (c :: coded)
  | escaped (c : Char) {plain coded : List Char} (unmarked : c ≠ '%') (unsigned : hexValue? c = none)
      (rest : Escaped plain coded) :
      Escaped (c :: plain) ((String.utf8EncodeChar c).flatMap escape ++ coded)

def octetAhead : List Char → Option (UInt8 × List Char)
  | a :: b :: tail =>
      match hexValue? a, hexValue? b with
      | some x, some y => some (UInt8.ofNat (x * 16 + y), tail)
      | _, _ => none
  | _ => none

theorem octetAhead_digits (a b : Char) (tail : List Char) :
    octetAhead (a :: b :: tail) =
      match hexValue? a, hexValue? b with
      | some x, some y => some (UInt8.ofNat (x * 16 + y), tail)
      | _, _ => none := rfl

theorem decode_mark (rest : List Char) :
    decode ('%' :: rest) =
      match octetAhead rest with
      | some (octet, tail) => octet :: decode tail
      | none => 0x25 :: decode rest := by
  rcases rest with _ | ⟨a, _ | ⟨b, tail⟩⟩
  · rfl
  · rfl
  · rw [decode, octetAhead_digits]
    cases hexValue? a with
    | none => rfl
    | some x =>
        cases hexValue? b with
        | none => rfl
        | some y => rfl

theorem decode_other (c : Char) (rest : List Char) (other : c ≠ '%') :
    decode (c :: rest) = String.utf8EncodeChar c ++ decode rest := by
  rw [decode]
  rintro a b tail rfl
  exact absurd rfl other

theorem octetAhead_escape (b : UInt8) (rest : List Char) :
    octetAhead (upperHexDigit (b.toNat / 16) :: upperHexDigit (b.toNat % 16) :: rest) =
      some (b, rest) := by
  have table : ∀ n : Fin 16, hexValue? (upperHexDigit n) = some n.val := by decide
  obtain ⟨high, low⟩ := halves_small b
  have whole : UInt8.ofNat (b.toNat / 16 * 16 + b.toNat % 16) = b := by
    rw [Nat.div_add_mod']
    exact UInt8.ofNat_toNat
  rw [octetAhead_digits, table ⟨_, high⟩, table ⟨_, low⟩]
  simp only [whole]

theorem decode_escapes (octets : List UInt8) (rest : List Char) :
    decode (octets.flatMap escape ++ rest) = octets ++ decode rest := by
  induction octets with
  | nil => rfl
  | cons b octets ih =>
      rw [List.flatMap_cons, List.append_assoc]
      change decode ('%' :: upperHexDigit _ :: upperHexDigit _ :: (octets.flatMap escape ++ rest)) = _
      rw [decode_mark, octetAhead_escape]
      simp only [ih, List.cons_append]

theorem octetAhead_escaped (plain coded : List Char) (same : Escaped plain coded) :
    (octetAhead plain = none ∧ octetAhead coded = none) ∨
      ∃ octet tail rest, octetAhead plain = some (octet, tail) ∧
        octetAhead coded = some (octet, rest) ∧ Escaped tail rest ∧ tail.length < plain.length := by
  have marked : ∀ c rest, ∃ more, (String.utf8EncodeChar c).flatMap escape ++ rest = '%' :: more := by
    intro c rest
    cases shape : String.utf8EncodeChar c with
    | nil => simp at shape
    | cons b octets => exact ⟨_, rfl⟩
  have unread : ∀ rest, octetAhead ('%' :: rest) = none := by
    intro rest
    cases rest with
    | nil => rfl
    | cons b rest => rfl
  have halfway : ∀ a rest, octetAhead (a :: '%' :: rest) = none := by
    intro a rest
    rw [octetAhead_digits]
    cases hexValue? a with
    | none => rfl
    | some x => rfl
  cases same with
  | nil => exact .inl ⟨rfl, rfl⟩
  | escaped a unmarked unsigned rest =>
      obtain ⟨more, shape⟩ := marked a _
      refine .inl ⟨?_, by rw [shape, unread]⟩
      rename_i tail _
      cases tail with
      | nil => rfl
      | cons b tail => rw [octetAhead_digits, unsigned]
  | kept a rest =>
      cases rest with
      | nil => exact .inl ⟨rfl, rfl⟩
      | escaped b unmarked unsigned rest =>
          obtain ⟨more, shape⟩ := marked b _
          refine .inl ⟨?_, by rw [shape, halfway]⟩
          rw [octetAhead_digits, unsigned]
          cases hexValue? a with
          | none => rfl
          | some x => rfl
      | kept b rest =>
          rename_i tail coded
          rw [octetAhead_digits, octetAhead_digits]
          cases hexValue? a with
          | none => exact .inl ⟨rfl, rfl⟩
          | some x =>
              cases hexValue? b with
              | none => exact .inl ⟨rfl, rfl⟩
              | some y =>
                  refine .inr ⟨_, tail, coded, rfl, rfl, rest, ?_⟩
                  simp only [List.length_cons]
                  omega

-- By induction on the length: an octet takes two digits with it.
theorem decode_escaped (plain coded : List Char) (same : Escaped plain coded) :
    decode coded = decode plain := by
  induction size : plain.length using Nat.strongRecOn generalizing plain coded with
  | ind size ih =>
      subst size
      cases same with
      | nil => rfl
      | escaped c unmarked unsigned rest =>
          rw [decode_escapes, decode_other c _ unmarked, ih _ (by simp) _ _ rest rfl]
      | kept c rest =>
          rename_i plain coded
          have inner := ih plain.length (by simp) _ _ rest rfl
          by_cases mark : c = '%'
          · subst mark
            rw [decode_mark, decode_mark]
            rcases octetAhead_escaped plain coded rest with
              ⟨first, second⟩ | ⟨octet, tail, behind, first, second, related, shorter⟩
            · rw [first, second]
              simp only [inner]
            · rw [first, second]
              have deeper := ih tail.length (by simp only [List.length_cons]; omega) _ _ related rfl
              simp only [deeper]
          · rw [decode_other c _ mark, decode_other c _ mark, inner]

/-- A set of characters that leaves alone what forms and escapes are read by. -/
structure Harmless (escaped : Char → Bool) : Prop where
  kept : ∀ c, c ∈ "%&=+".toList ∨ hexValue? c ≠ none → c.toNat < 0x80 ∧ escaped c = false

theorem escaped_encode (escaped : Char → Bool) (harmless : Harmless escaped) (f : Char → Char)
    (signs_kept : ∀ c ∈ signs, f c = c) (others : ∀ c, c ≠ '+' → f c = c) (cs : List Char) :
    Escaped (cs.map f) ((encode escaped cs).map f) := by
  induction cs with
  | nil => exact .nil
  | cons c cs ih =>
      change Escaped (f c :: cs.map f) ((encodeChar escaped c ++ encode escaped cs).map f)
      rw [List.map_append]
      unfold encodeChar
      split
      · exact .kept (f c) ih
      · rename_i coded
        have unkept : ∀ d, d ∈ "%&=+".toList ∨ hexValue? d ≠ none → c ≠ d := by
          rintro d listed rfl
          exact coded (harmless.kept c listed)
        have escapes : ((String.utf8EncodeChar c).flatMap escape).map f =
            (String.utf8EncodeChar c).flatMap escape := by
          have fixed : ∀ d ∈ (String.utf8EncodeChar c).flatMap escape, f d = d := by
            intro d member
            obtain ⟨b, -, sign⟩ := List.mem_flatMap.mp member
            exact signs_kept d (escape_signs b d sign)
          rw [List.map_congr_left fixed, List.map_id']
        rw [escapes, others c (unkept '+' (.inl (by decide)))]
        refine .escaped c (unkept '%' (.inl (by decide))) ?_ ih
        by_contra digit
        exact unkept c (.inr digit) rfl

end Percent

namespace Form

open Percent (Harmless encode encodeChar)
open Text (cut pieces)

theorem decodePart_encode (escaped : Char → Bool) (harmless : Harmless escaped) (cs : List Char) :
    decodePart (encode escaped cs) = decodePart cs := by
  unfold decodePart
  refine congrArg Utf8.decodeLossy (Percent.decode_escaped _ _ ?_)
  apply Percent.escaped_encode escaped harmless (fun c => if c = '+' then ' ' else c)
  · exact Text.each_of_all _ _ (by decide)
  · intro c other
    exact if_neg other

theorem pieces_front (mark : Char) (front cs first : List Char) (others : List (List Char))
    (unmarked : mark ∉ front) (split : pieces mark cs = first :: others) :
    pieces mark (front ++ cs) = (front ++ first) :: others := by
  induction front with
  | nil => exact split
  | cons c front ih =>
      have other : c ≠ mark := by
        rintro rfl
        exact unmarked List.mem_cons_self
      have rest := ih fun member => unmarked (List.mem_cons_of_mem c member)
      rw [List.cons_append, pieces, if_neg other, rest]
      rfl

theorem cut_front (mark : Char) (front cs : List Char) (unmarked : mark ∉ front) :
    cut mark (front ++ cs) = (front ++ (cut mark cs).1, (cut mark cs).2) := by
  induction front with
  | nil => rfl
  | cons c front ih =>
      have other : c ≠ mark := by
        rintro rfl
        exact unmarked List.mem_cons_self
      have rest := ih fun member => unmarked (List.mem_cons_of_mem c member)
      rw [List.cons_append, cut, if_neg other, rest]
      rfl

variable {escaped : Char → Bool} {mark : Char}

theorem unmarked_encodeChar (unsigned : mark ∉ Percent.signs) (c : Char) (other : c ≠ mark) :
    mark ∉ encodeChar escaped c := by
  intro member
  unfold encodeChar at member
  split at member
  · exact other (List.mem_singleton.mp member).symm
  · obtain ⟨b, -, sign⟩ := List.mem_flatMap.mp member
    exact unsigned (Percent.escape_signs b mark sign)

theorem encode_cons (escaped : Char → Bool) (c : Char) (cs : List Char) :
    encode escaped (c :: cs) = encodeChar escaped c ++ encode escaped cs :=
  List.flatMap_cons

theorem encodeChar_kept (kept : mark.toNat < 0x80 ∧ escaped mark = false) :
    encodeChar escaped mark = [mark] :=
  if_pos kept

theorem pieces_encode (kept : mark.toNat < 0x80 ∧ escaped mark = false)
    (unsigned : mark ∉ Percent.signs) (cs : List Char) :
    pieces mark (encode escaped cs) = (pieces mark cs).map (encode escaped) := by
  induction cs with
  | nil => rfl
  | cons c cs ih =>
      rw [encode_cons]
      by_cases same : c = mark
      · subst same
        rw [encodeChar_kept kept, List.singleton_append, pieces, if_pos rfl, ih, pieces, if_pos rfl]
        rfl
      · cases split : pieces mark cs with
        | nil => exact absurd split (Text.pieces_some mark cs)
        | cons first others =>
            have coded : pieces mark (encode escaped cs) =
                encode escaped first :: others.map (encode escaped) := by
              rw [ih, split]
              rfl
            rw [pieces_front mark _ _ _ _ (unmarked_encodeChar unsigned c same) coded, pieces,
              if_neg same, split]
            simp only [List.map_cons, encode_cons]

theorem cut_encode (kept : mark.toNat < 0x80 ∧ escaped mark = false)
    (unsigned : mark ∉ Percent.signs) (cs : List Char) :
    cut mark (encode escaped cs) =
      (encode escaped (cut mark cs).1, (cut mark cs).2.map (encode escaped)) := by
  induction cs with
  | nil => rfl
  | cons c cs ih =>
      rw [encode_cons]
      by_cases same : c = mark
      · subst same
        rw [encodeChar_kept kept, List.singleton_append, cut, if_pos rfl, cut, if_pos rfl]
        rfl
      · rw [cut_front mark _ _ (unmarked_encodeChar unsigned c same), ih, cut, if_neg same]
        simp only [encode_cons]

theorem encode_isEmpty (escaped : Char → Bool) (cs : List Char) :
    (encode escaped cs).isEmpty = cs.isEmpty := by
  cases cs with
  | nil => rfl
  | cons c cs =>
      have some_ : encodeChar escaped c ≠ [] := by
        unfold encodeChar
        split
        · simp
        · intro nothing
          cases shape : String.utf8EncodeChar c with
          | nil => simp at shape
          | cons b octets =>
              rw [shape] at nothing
              cases nothing
      rw [encode_cons]
      simp [some_]

theorem parse_encode (harmless : Harmless escaped) (cs : List Char) :
    parse (encode escaped cs) = parse cs := by
  have ampersand := harmless.kept '&' (.inl (by decide))
  have equals := harmless.kept '=' (.inl (by decide))
  have decoded := decodePart_encode escaped harmless
  unfold parse
  rw [pieces_encode ampersand (by decide), List.filter_map, List.map_map]
  have nonempty : ((fun piece : List Char => !piece.isEmpty) ∘ encode escaped) =
      fun piece => !piece.isEmpty := by
    funext piece
    simp only [Function.comp, encode_isEmpty]
  rw [nonempty]
  refine List.map_congr_left fun piece _ => ?_
  simp only [Function.comp, cut_encode equals (by decide), decoded]
  cases (cut '=' piece).2 with
  | none => rfl
  | some value => simp only [Option.map_some, Option.getD_some, decoded]

end Form

end AccessGate
