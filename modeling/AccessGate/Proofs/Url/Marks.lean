import AccessGate.Proofs.Url.LetterCase
import AccessGate.Proofs.Url.Starred

/-!
Names and the marks of an authority. Neither mapping nor composition nor Punycode takes such a mark out of
a name, so a name that holds one is refused: brackets stand around addresses only, and the marks of a user
and of a port stand outside of names.
-/

namespace AccessGate

namespace Unicode

/-- A code point in ASCII that is neither a composite nor a part of one. -/
structure Apart (n : Nat) : Prop where
  ascii : n < 0x80
  whole : ∀ entry ∈ composites, entry.1 ≠ n
  first : ∀ entry ∈ composites, entry.2.1 ≠ n
  second : ∀ entry ∈ composites, entry.2.2 ≠ n

-- The texts of the table are unfolded first: the kernel then only reads lists of characters.
set_option maxRecDepth 100000 in
theorem composites_unmarked : composites.all (fun entry =>
    [entry.1, entry.2.1, entry.2.2].all fun n => !(":@[]".toList.map Char.toNat).contains n) = true := by
  unfold composites compositionGroups
  simp only [List.flatMap_cons, List.flatMap_nil]
  repeat rw [String.toList_ofList]
  decide +kernel

theorem mark_apart (c : Char) (mark : c ∈ ":@[]".toList) : Apart c.toNat := by
  have small : ∀ c ∈ ":@[]".toList, c.toNat < 0x80 := Text.each_of_all ":@[]".toList _ (by decide)
  have apart : ∀ entry ∈ composites, ∀ n ∈ [entry.1, entry.2.1, entry.2.2], n ≠ c.toNat := by
    intro entry member n part same
    have free := List.all_eq_true.mp (List.all_eq_true.mp composites_unmarked entry member) n part
    rw [Bool.not_eq_true', List.contains_eq_mem, decide_eq_false_iff_not] at free
    exact free (same ▸ List.mem_map_of_mem mark)
  exact ⟨small c mark, fun entry member => apart entry member _ (by simp),
    fun entry member => apart entry member _ (by simp), fun entry member => apart entry member _ (by simp)⟩

theorem unsyllabic_of_small (n : Nat) (small : n < 0x80) : isSyllable n = false := by
  have low : decide (syllableBase ≤ n) = false := by
    rw [decide_eq_false_iff_not, syllableBase]
    omega
  rw [isSyllable, low, Bool.false_and]

theorem decomposed_apart (depth n : Nat) (apart : Apart n) : decomposed depth n = [n] := by
  cases depth with
  | zero => rfl
  | succ depth =>
      have unsyllabic := unsyllabic_of_small n apart.ascii
      have simple : composites.find? (·.1 == n) = none := by
        rw [List.find?_eq_none]
        intro entry member
        simpa using apart.whole entry member
      rw [decomposed, unsyllabic, if_neg Bool.false_ne_true, simple]
      rfl

theorem pairOf_apart (n other : Nat) (apart : Apart n) :
    pairOf n other = none ∧ pairOf other n = none := by
  have small := apart.ascii
  have unpaired : ∀ first second, (first = n ∨ second = n) →
      composites.find? (fun entry => entry.2.1 == first && entry.2.2 == second) = none := by
    intro first second concerned
    rw [List.find?_eq_none]
    intro entry member
    simp only [Bool.and_eq_true, beq_iff_eq]
    rintro ⟨rfl, rfl⟩
    rcases concerned with same | same
    · exact apart.first entry member same
    · exact apart.second entry member same
  constructor
  · unfold pairOf
    rw [if_neg (by omega), unsyllabic_of_small n small, if_neg (by simp), unpaired n other (.inl rfl)]
    rfl
  · unfold pairOf
    rw [if_neg (by omega), if_neg (by omega), unpaired other n (.inr rfl)]
    rfl

theorem mem_place (n mark value : Nat) (marks : List (Nat × Nat)) :
    n ∈ (place mark value marks).map (·.1) ↔ n = mark ∨ n ∈ marks.map (·.1) := by
  induction marks with
  | nil => simp [place]
  | cons next marks ih =>
      obtain ⟨other, held⟩ := next
      unfold place
      split
      · rw [List.map_cons, List.mem_cons, ih, List.map_cons, List.mem_cons]
        exact or_left_comm
      · simp

theorem mem_ordered (n : Nat) (points : List Nat) (member : n ∈ points) :
    n ∈ (ordered points).map (·.1) := by
  have kept : ∀ (points : List Nat) (done : List (Nat × Nat)),
      n ∈ points ∨ n ∈ done.map (·.1) →
        n ∈ (points.foldl (fun done n => place n (combiningClass n) done) done).map (·.1) := by
    intro points
    induction points with
    | nil => exact fun done there => there.resolve_left List.not_mem_nil
    | cons point points ih =>
        intro done there
        apply ih
        rw [mem_place, List.mem_cons] at *
        rcases there with (same | later) | before
        · exact .inr (.inl same)
        · exact .inl later
        · exact .inr (.inr before)
  have whole := kept points [] (.inl member)
  rw [ordered, List.map_reverse, List.mem_reverse]
  exact whole

-- By induction on what is still to be joined: only the parts of composites are taken away.
theorem mem_joined (n : Nat) (apart : Apart n) (rest : List (Nat × Nat)) (starter : Option Nat)
    (marks : List Nat) (last : Nat) (there : starter = some n ∨ n ∈ marks ∨ n ∈ rest.map (·.1)) :
    n ∈ joined starter marks last rest := by
  induction rest generalizing starter marks last with
  | nil =>
      rw [List.map_nil] at there
      rcases there with rfl | marked | none
      · simp [joined]
      · cases starter with
        | none => simpa [joined] using marked
        | some first => simp [joined, marked]
      · cases none
  | cons next rest ih =>
      obtain ⟨point, value⟩ := next
      rw [List.map_cons, List.mem_cons] at there
      cases starter with
      | none =>
          unfold joined
          rcases there with none | marked | rfl | later
          · cases none
          · split
            · exact List.mem_append_left _ marked
            · exact ih _ _ _ (.inr (.inl (List.mem_append_left _ marked)))
          · split
            · exact List.mem_append_right _ (ih _ _ _ (.inl rfl))
            · exact ih _ _ _ (.inr (.inl (by simp)))
          · split
            · exact List.mem_append_right _ (ih _ _ _ (.inr (.inr later)))
            · exact ih _ _ _ (.inr (.inr later))
      | some first =>
          have unpaired : first = n ∨ point = n → pairOf first point = none := by
            rintro (rfl | rfl)
            · exact (pairOf_apart _ point apart).1
            · exact (pairOf_apart _ first apart).2
          unfold joined
          dsimp only
          split
          · rename_i whole paired
            have other : ¬ (first = n ∨ point = n) := by
              intro concerned
              rw [unpaired concerned, ite_self] at paired
              cases paired
            apply ih
            rcases there with same | marked | rfl | later
            · exact absurd (.inl (Option.some.inj same)) other
            · exact .inr (.inl marked)
            · exact absurd (.inr rfl) other
            · exact .inr (.inr later)
          · split
            · rcases there with same | marked | rfl | later
              · cases same
                exact List.mem_append_left _ List.mem_cons_self
              · exact List.mem_append_left _ (List.mem_cons_of_mem _ marked)
              · exact List.mem_append_right _ (ih _ _ _ (.inl rfl))
              · exact List.mem_append_right _ (ih _ _ _ (.inr (.inr later)))
            · apply ih
              rcases there with same | marked | rfl | later
              · exact .inl same
              · exact .inr (.inl (List.mem_append_left _ marked))
              · exact .inr (.inl (by simp))
              · exact .inr (.inr later)

theorem mem_composed (n : Nat) (points : List Nat) (apart : Apart n) (member : n ∈ points) :
    n ∈ composed points := by
  apply mem_joined n apart
  refine .inr (.inr (mem_ordered n _ ?_))
  rw [List.mem_flatMap]
  exact ⟨n, member, by rw [decomposed_apart 4 n apart]; exact List.mem_singleton_self n⟩

end Unicode

namespace Url

namespace Punycode

theorem mem_insertAt (value index point : Nat) (list : List Nat) (member : point ∈ list) :
    point ∈ insertAt value index list := by
  induction list generalizing index with
  | nil => cases member
  | cons head rest ih =>
      cases index with
      | zero => exact List.mem_cons_of_mem _ member
      | succ index =>
          rcases List.mem_cons.mp member with rfl | later
          · exact List.mem_cons_self
          · exact List.mem_cons_of_mem _ (ih index later)

theorem mem_step (reader next : Reader) (c : Char) (stepped : reader.step c = some next) (point : Nat)
    (member : point ∈ reader.output) : point ∈ next.output := by
  unfold Reader.step at stepped
  split at stepped
  · cases stepped
  · dsimp only at stepped
    split at stepped
    · cases stepped
    · split at stepped
      · cases stepped
        exact member
      · split at stepped
        · cases stepped
        · cases stepped
          exact mem_insertAt _ _ point _ member

theorem readAll_some (reader : Reader) (cs : List Char) (points : List Nat)
    (read : readAll reader cs = some points) :
    (∀ point ∈ reader.output, point ∈ points) ∧ ∀ c ∈ cs, digitValue? c ≠ none := by
  induction cs generalizing reader with
  | nil =>
      unfold readAll at read
      split at read
      · cases read
        exact ⟨fun point member => member, List.forall_mem_nil _⟩
      · cases read
  | cons c cs ih =>
      obtain ⟨next, stepped, rest⟩ := Option.bind_eq_some_iff.mp read
      obtain ⟨kept, digits⟩ := ih next rest
      refine ⟨fun point member => kept point (mem_step reader next c stepped point member), ?_⟩
      rintro d member none
      rcases List.mem_cons.mp member with rfl | later
      · rw [Reader.step, none] at stepped
        cases stepped
      · exact digits d later none

theorem mem_decode (cs : List Char) (points : List Nat) (read : decode? cs = some points) (c : Char)
    (undigited : digitValue? c = none) (other : c ≠ '-') (member : c ∈ cs) : c.toNat ∈ points := by
  unfold decode? at read
  dsimp only at read
  split at read
  · obtain ⟨kept, digits⟩ := readAll_some _ _ points read
    apply kept
    have parts : (cs.reverse.dropWhile (· != '-')).reverse ++
        (cs.reverse.takeWhile (· != '-')).reverse = cs := by
      rw [← List.reverse_append, List.takeWhile_append_dropWhile, List.reverse_reverse]
    have front : c ∈ (cs.reverse.dropWhile (· != '-')).reverse := by
      rw [← parts] at member
      exact (List.mem_append.mp member).resolve_right fun last => digits c last undigited
    cases marked : cs.reverse.dropWhile (· != '-') with
    | nil =>
        rw [marked] at front
        cases front
    | cons mark before =>
        have dash := Text.head?_dropWhile (· != '-') cs.reverse mark (by rw [marked]; rfl)
        rw [bne_eq_false_iff_eq] at dash
        rw [marked, List.reverse_cons] at front parts
        have inside := (List.mem_append.mp front).resolve_right fun last =>
          other ((List.mem_singleton.mp last).trans dash)
        have size : before.reverse.length = cs.length -
            (cs.reverse.takeWhile (· != '-')).reverse.length - 1 := by
          rw [← congrArg List.length parts]
          simp only [List.length_append, List.length_singleton]
          omega
        have basic : cs.take before.reverse.length = before.reverse := by
          conv =>
            lhs
            rw [← parts]
          rw [List.append_assoc, List.take_left]
        change c.toNat ∈ (cs.take _).map Char.toNat
        rw [← size, basic]
        exact List.mem_map_of_mem inside
  · cases read

end Punycode

namespace DomainName

theorem mem_labels (points : List Nat) (n : Nat) (member : n ∈ points) (other : n ≠ dot) :
    ∃ label ∈ labels points, n ∈ label := by
  induction points with
  | nil => cases member
  | cons point points ih =>
      unfold labels
      split
      · rename_i separates
        rcases List.mem_cons.mp member with rfl | later
        · exact absurd separates other
        · obtain ⟨label, listed, inside⟩ := ih later
          exact ⟨label, List.mem_cons_of_mem _ listed, inside⟩
      · cases cut : labels points with
        | nil =>
            rcases List.mem_cons.mp member with rfl | later
            · exact ⟨[n], List.mem_singleton_self _, List.mem_singleton_self _⟩
            · obtain ⟨label, listed, -⟩ := ih later
              rw [cut] at listed
              cases listed
        | cons first others =>
            rcases List.mem_cons.mp member with rfl | later
            · exact ⟨n :: first, List.mem_cons_self, List.mem_cons_self⟩
            · obtain ⟨label, listed, inside⟩ := ih later
              rw [cut] at listed
              rcases List.mem_cons.mp listed with rfl | behind
              · exact ⟨point :: label, List.mem_cons_self, List.mem_cons_of_mem _ inside⟩
              · exact ⟨label, List.mem_cons_of_mem _ behind, inside⟩

theorem mark_plain (c : Char) (mark : c ∈ ":@[]".toList) :
    Punycode.digitValue? c = none ∧ c ≠ '-' ∧ c.toNat ∉ escapeMark ∧ c.toNat < 0x80 ∧ c ≠ '%' ∧
      Text.hexValue? c = none :=
  Text.each_of_all ":@[]".toList (fun c => Punycode.digitValue? c = none ∧ c ≠ '-' ∧ c.toNat ∉ escapeMark ∧
    c.toNat < 0x80 ∧ c ≠ '%' ∧ Text.hexValue? c = none) (by decide) c mark

theorem mem_readLabel (label found : List Nat) (read : readLabel label = some found) (c : Char)
    (mark : c ∈ ":@[]".toList) (member : c.toNat ∈ label) : c.toNat ∈ found := by
  obtain ⟨undigited, other, unescaped, -⟩ := mark_plain c mark
  unfold readLabel at read
  split at read
  · rename_i escaped
    have behind : c.toNat ∈ label.drop 4 := by
      rw [← List.take_append_drop 4 label, List.mem_append, escaped] at member
      exact member.resolve_left unescaped
    have text : c ∈ (label.drop 4).map Char.ofNat :=
      List.mem_map.mpr ⟨c.toNat, behind, Char.ofNat_toNat c⟩
    split at read
    · rename_i points decoded
      split at read
      · cases read
        exact Punycode.mem_decode _ _ decoded c undigited other text
      · cases read
    · cases read
  · cases read
    exact member

theorem mark_point (c : Char) (mark : c ∈ ":@[]".toList) :
    mapPoint c.toNat = [c.toNat] ∧ c.toNat ≠ dot ∧ isAdmitted c.toNat = false := by
  have small := (mark_plain c mark).2.2.2.1
  have table : ∀ c ∈ ":@[]".toList, [c.toLower.toNat] = [c.toNat] ∧ c.toNat ≠ dot ∧ (!isForbidden c) = false :=
    Text.each_of_all ":@[]".toList _ (by decide)
  unfold mapPoint isAdmitted
  rw [if_pos small, if_pos small, Char.ofNat_toNat]
  exact table c mark

theorem toAscii_marked (name : List Char) (c : Char) (mark : c ∈ ":@[]".toList) (member : c ∈ name) :
    toAscii? name = none := by
  obtain ⟨mapped, undotted, refused⟩ := mark_point c mark
  have apart := Unicode.mark_apart c mark
  have met : c.toNat ∈ name.flatMap fun c => mapPoint c.toNat :=
    List.mem_flatMap.mpr ⟨c, member, by rw [mapped]; exact List.mem_singleton_self _⟩
  unfold toAscii?
  dsimp only
  generalize (name.flatMap fun c => mapPoint c.toNat) = met_ at met ⊢
  have composed_ : c.toNat ∈ if met_.all (· < 128) then met_ else Unicode.composed met_ := by
    split
    · exact met
    · exact Unicode.mem_composed _ met_ apart met
  obtain ⟨label, listed, inside⟩ := mem_labels _ c.toNat composed_ undotted
  split
  · rfl
  · rename_i found read
    obtain ⟨text, there, same⟩ := Text.mapM_value read label listed
    have kept := mem_readLabel label text same c mark inside
    rw [if_neg]
    rintro ⟨fit, -⟩
    have fits := List.all_eq_true.mp fit text there
    simp only [labelFits, Bool.and_eq_true] at fits
    have admitted := List.all_eq_true.mp fits.1.1 c.toNat kept
    rw [refused] at admitted
    cases admitted

end DomainName

end Url

namespace Utf8

theorem continuation_high (need : Nat) (low high : UInt8) (point : Nat) (rest : List UInt8)
    (beyond : 0x80 ≤ low) :
    ∀ b ∈ rest.take (continuation need low high point rest).1, 0x80 ≤ b := by
  induction need generalizing low high point rest with
  | zero => simp [continuation]
  | succ need ih =>
      cases rest with
      | nil => simp
      | cons b rest =>
          unfold continuation
          split
          · rename_i fits
            intro d member
            rw [List.take_succ_cons] at member
            rcases List.mem_cons.mp member with rfl | later
            · exact UInt8.le_trans beyond fits.1
            · exact ih _ _ _ rest (by decide) d later
          · simp

theorem lead_low (b low high : UInt8) (need bits : Nat) (lead : lead? b = some (need, low, high, bits)) :
    0x80 ≤ low := by
  unfold lead? at lead
  repeat' split at lead
  all_goals
    cases lead
  all_goals decide

-- By induction on the reader: an octet in ASCII is no part of a longer character.
theorem mem_read (octets : List UInt8) (b : UInt8) (ascii : b < 0x80) (member : b ∈ octets) :
    some (Char.ofNat b.toNat) ∈ read octets := by
  induction octets using read.induct with
  | case1 => cases member
  | case2 first rest small ih =>
      rw [read, if_pos small]
      rcases List.mem_cons.mp member with rfl | later
      · exact List.mem_cons_self
      · exact List.mem_cons_of_mem _ (ih later)
  | case3 first rest large unread ih =>
      rw [read, if_neg large, unread]
      rcases List.mem_cons.mp member with rfl | later
      · exact absurd ascii large
      · exact List.mem_cons_of_mem _ (ih later)
  | case4 first rest large need low high bits lead next ih =>
      rw [read, if_neg large, lead]
      apply List.mem_cons_of_mem
      apply ih
      rcases List.mem_cons.mp member with rfl | later
      · exact absurd ascii large
      · rw [← List.take_append_drop next.1 rest, List.mem_append] at later
        refine later.resolve_left fun continued => ?_
        have high_ := continuation_high need low high bits rest (lead_low first low high need bits lead) b continued
        exact absurd ascii (UInt8.not_lt.mpr high_)

theorem mem_decode (octets : List UInt8) (cs : List Char) (read_ : decode? octets = some cs) (b : UInt8)
    (ascii : b < 0x80) (member : b ∈ octets) : Char.ofNat b.toNat ∈ cs := by
  obtain ⟨c, listed, same⟩ := Text.mapM_value read_ _ (mem_read octets b ascii member)
  cases same
  exact listed

end Utf8

theorem Percent.mem_decode (cs : List Char) (c : Char) (ascii : c.toNat < 0x80) (other : c ≠ '%')
    (undigited : Text.hexValue? c = none) (member : c ∈ cs) : UInt8.ofNat c.toNat ∈ decode cs := by
  induction cs using decode.induct with
  | case1 => cases member
  | case2 a b tail x y second first ih =>
      have inside : c ∈ tail := by
        rcases List.mem_cons.mp member with rfl | later
        · exact absurd rfl other
        · rcases List.mem_cons.mp later with rfl | later
          · rw [first] at undigited
            cases undigited
          · rcases List.mem_cons.mp later with rfl | later
            · rw [second] at undigited
              cases undigited
            · exact later
      simp only [decode, first, second]
      exact List.mem_cons_of_mem _ (ih inside)
  | case3 a b tail unread ih =>
      have inside := (List.mem_cons.mp member).resolve_left other
      rw [decode]
      split
      · rename_i first second
        exact (unread _ _ first second).elim
      · exact List.mem_cons_of_mem _ (ih inside)
  | case4 d rest single ih =>
      rw [decode.eq_3 d rest single, List.mem_append]
      rcases List.mem_cons.mp member with rfl | later
      · left
        rw [Utf8.encodeChar_ascii c ascii]
        exact List.mem_singleton_self _
      · exact .inr (ih later)

namespace Url.V6

open Text (hexValue? digitValue? natural? pieces)

theorem mem_pieces (mark c : Char) (cs : List Char) (member : c ∈ cs) (other : c ≠ mark) :
    ∃ piece ∈ pieces mark cs, c ∈ piece := by
  induction cs with
  | nil => cases member
  | cons d cs ih =>
      unfold pieces
      split
      · rename_i marked
        rcases List.mem_cons.mp member with rfl | later
        · exact absurd marked other
        · obtain ⟨piece, listed, inside⟩ := ih later
          exact ⟨piece, List.mem_cons_of_mem _ listed, inside⟩
      · cases cut : pieces mark cs with
        | nil => exact absurd cut (Text.pieces_some mark cs)
        | cons first others =>
            rcases List.mem_cons.mp member with rfl | later
            · exact ⟨c :: first, List.mem_cons_self, List.mem_cons_self⟩
            · obtain ⟨piece, listed, inside⟩ := ih later
              rw [cut] at listed
              rcases List.mem_cons.mp listed with rfl | behind
              · exact ⟨d :: piece, List.mem_cons_self, List.mem_cons_of_mem _ inside⟩
              · exact ⟨piece, List.mem_cons_of_mem _ behind, inside⟩

theorem mark_foreign (mark : Char) (listed : mark ∈ "@[]".toList) :
    digitValue? mark = none ∧ hexValue? mark = none ∧ mark ≠ '.' ∧ mark ≠ ':' :=
  Text.each_of_all "@[]".toList (fun mark =>
    digitValue? mark = none ∧ hexValue? mark = none ∧ mark ≠ '.' ∧ mark ≠ ':') (by decide) mark listed

theorem octets_unmarked (cs : List Char) (groups : List Nat) (read : octets? cs = some groups)
    (mark : Char) (listed : mark ∈ "@[]".toList) : mark ∉ cs := by
  obtain ⟨undigited, -, other, -⟩ := mark_foreign mark listed
  intro member
  obtain ⟨piece, there, inside⟩ := mem_pieces '.' mark cs member other
  have unread : octet? piece = none := by
    have none_ : natural? piece = none := by
      unfold natural?
      rw [Text.mapM_none digitValue? piece mark inside undigited]
      split
      · rfl
      · rfl
    unfold octet?
    rw [none_]
  unfold octets? at read
  rw [Text.mapM_none octet? _ piece there unread] at read
  cases read

-- By induction on the fuel: neither digits nor what stands between them is such a mark.
theorem groups_unmarked (fuel : Nat) (d draft : Draft) (cs : List Char)
    (read : groups fuel d cs = some draft) (mark : Char) (listed : mark ∈ "@[]".toList) : mark ∉ cs := by
  obtain ⟨-, undigited, -, uncoloned⟩ := mark_foreign mark listed
  induction fuel generalizing d cs with
  | zero =>
      cases cs with
      | nil => exact List.not_mem_nil
      | cons c cs => cases read
  | succ fuel ih =>
      cases cs with
      | nil => exact List.not_mem_nil
      | cons c cs =>
          unfold groups at read
          split at read
          · cases read
          · split at read
            · rename_i colon
              split at read
              · cases read
              · rw [List.mem_cons, not_or]
                exact ⟨fun same => uncoloned (same.trans colon), ih _ cs read⟩
            · dsimp only at read
              have digits : mark ∉ ((c :: cs).take 4).takeWhile fun c => (hexValue? c).isSome := by
                intro member
                have digit := Text.mem_takeWhile _ _ mark member
                rw [undigited] at digit
                cases digit
              have parts : (c :: cs).take (((c :: cs).take 4).takeWhile fun c => (hexValue? c).isSome).length =
                  ((c :: cs).take 4).takeWhile fun c => (hexValue? c).isSome := by
                have shorter : ((c :: cs).take 4).takeWhile (fun c => (hexValue? c).isSome) <+: c :: cs :=
                  (List.takeWhile_prefix _).trans (List.take_prefix 4 _)
                exact (List.prefix_iff_eq_take.mp shorter).symm
              generalize ((c :: cs).take 4).takeWhile (fun c => (hexValue? c).isSome) = front at read digits parts
              intro member
              rw [← List.take_append_drop front.length (c :: cs), parts, List.mem_append] at member
              have behind := member.resolve_left digits
              split at read
              · rename_i nothing
                rw [nothing] at behind
                cases behind
              · split at read
                · cases read
                · obtain ⟨values, found, -⟩ := Option.map_eq_some_iff.mp read
                  exact octets_unmarked _ values found mark listed (List.mem_of_mem_drop behind)
              · cases read
              · rename_i rest _ shape
                rw [shape] at behind
                rcases List.mem_cons.mp behind with colon | later
                · exact uncoloned colon
                · exact ih _ rest read later
              · cases read

theorem parse_unmarked (cs : List Char) (groups : Net.Groups) (read : parse cs = .ok groups) :
    ∀ c ∈ cs, c ∉ "@[]".toList := by
  have free : ∀ fuel d rest, finished fuel d rest = .ok groups → ∀ c ∈ rest, c ∉ "@[]".toList := by
    intro fuel d rest done c member marked
    unfold finished at done
    cases found : V6.groups fuel d rest with
    | none =>
        rw [found] at done
        cases done
    | some draft => exact groups_unmarked fuel d draft rest found c marked member
  rcases cs with _ | ⟨a, _ | ⟨b, rest⟩⟩
  · exact List.forall_mem_nil _
  · rw [parse_single] at read
    cases read
  · by_cases first : a = ':'
    · subst first
      by_cases second : b = ':'
      · subst second
        rw [parse_gapped] at read
        intro c member
        rcases List.mem_cons.mp member with rfl | later
        · decide
        · rcases List.mem_cons.mp later with rfl | inner
          · decide
          · exact free _ _ rest read c inner
      · rw [parse_halved b rest second] at read
        cases read
    · rw [parse_open a b rest first] at read
      exact free _ _ (a :: b :: rest) read

end Url.V6

theorem Url.Host.parse_unmarked (cs : List Char) (host : Host) (read : Host.parse cs = .ok host)
    (unbracketed : cs.head? ≠ some '[') : ∀ c ∈ cs, c ∉ ":@[]".toList := by
  intro c member mark
  obtain ⟨-, -, -, ascii, other, undigited⟩ := DomainName.mark_plain c mark
  have octet := Percent.mem_decode cs c ascii other undigited member
  have refused : (Utf8.decode? (Percent.decode cs)).bind DomainName.toAscii? = none := by
    cases text : Utf8.decode? (Percent.decode cs) with
    | none => rfl
    | some name =>
        have small : UInt8.ofNat c.toNat < 0x80 := by
          rw [UInt8.lt_iff_toNat_lt, UInt8.toNat_ofNat']
          exact Nat.lt_of_le_of_lt (Nat.mod_le _ _) ascii
        have there := Utf8.mem_decode _ name text _ small octet
        rw [UInt8.toNat_ofNat', Nat.mod_eq_of_lt (by omega), Char.ofNat_toNat] at there
        exact DomainName.toAscii_marked name c mark there
  unfold parse at read
  split at read
  · exact unbracketed rfl
  · rw [refused] at read
    cases read

end AccessGate
