import AccessGate.Proofs.Url.Rendered

/-!
URLs with a star behind their text. Behind a name it becomes part of the last label, which no address
and no Punycode has, so such a name is never read as the name without it. Behind a path it becomes part
of the last segment.
-/

namespace AccessGate

namespace Url

namespace DomainName

open Text (Behind)

/-- The dot between labels. -/
def dot : Nat := 0x2E

theorem labels_last (points : List Nat) : ∃ others label front,
    labels points = others ++ [label] ∧ points = front ++ label ∧ Behind dot front label ∧
      (others = [] ↔ front = []) ∧
      ∀ n, n ≠ dot → labels (points ++ [n]) = others ++ [label ++ [n]] := by
  induction points with
  | nil =>
      refine ⟨[], [], [], rfl, rfl, ⟨by simp, .inl rfl⟩, by simp, ?_⟩
      intro n other
      simp only [dot] at other
      simp [labels, other]
  | cons point points ih =>
      obtain ⟨others, label, front, cut, whole, ⟨undotted, ends⟩, alone, grows⟩ := ih
      by_cases separates : point = 0x2E
      · refine ⟨[] :: others, label, point :: front, ?_, ?_, ⟨undotted, ?_⟩, by simp, ?_⟩
        · simp [labels, separates, cut]
        · rw [whole]
          rfl
        · right
          rcases ends with rfl | ends
          · simp [separates, dot]
          · rw [List.getLast?_cons, ends]
            rfl
        · intro n other
          simp [labels, separates, grows n other]
      · cases others with
        | nil =>
            have nothing := alone.mp rfl
            subst nothing
            refine ⟨[], point :: label, [], ?_, ?_, ⟨?_, .inl rfl⟩, by simp, ?_⟩
            · simp [labels, separates, cut]
            · rw [whole]
              rfl
            · intro inside
              rcases List.mem_cons.mp inside with same | inner
              · exact separates same.symm
              · exact undotted inner
            · intro n other
              simp [labels, separates, grows n other]
        | cons first others =>
            refine ⟨(point :: first) :: others, label, point :: front, ?_, ?_, ⟨undotted, ?_⟩,
              by simp, ?_⟩
            · simp [labels, separates, cut]
            · rw [whole]
              rfl
            · right
              have some_ : front ≠ [] := fun nothing => by cases alone.mpr nothing
              rw [List.getLast?_cons, ends.resolve_left some_]
              rfl
            · intro n other
              simp [labels, separates, grows n other]

/-- The sign of requests that are for a server as a whole. -/
def star : Nat := '*'.toNat

theorem star_sign : Char.ofNat star = '*' := by decide

-- A label in Punycode ends with a numeral, and the star is no digit of one.
theorem decode_starred (cs : List Char) : Punycode.decode? (cs ++ ['*']) = none := by
  have fails : ∀ (reader : Punycode.Reader) (front : List Char),
      Punycode.readAll reader (front ++ ['*']) = none := by
    intro reader front
    induction front generalizing reader with
    | nil => rfl
    | cons c front ih =>
        rw [List.cons_append, Punycode.readAll]
        cases reader.step c with
        | none => rfl
        | some next => exact ih next
  obtain ⟨front, numerals⟩ : ∃ front,
      ((cs ++ ['*']).reverse.takeWhile (· != '-')).reverse = front ++ ['*'] := by
    refine ⟨(cs.reverse.takeWhile (· != '-')).reverse, ?_⟩
    rw [List.reverse_append]
    simp
  unfold Punycode.decode?
  rw [numerals]
  dsimp only
  split
  · exact fails _ front
  · rfl

theorem readLabel_starred (label found : List Nat)
    (read : readLabel (label ++ [star]) = some found) : found = label ++ [star] := by
  unfold readLabel at read
  split at read
  · rename_i escaped
    have long : 4 ≤ label.length := by
      by_cases short : label.length ≤ 3
      · exfalso
        have member : star ∈ (label ++ [star]).take 4 := by
          rw [List.take_of_length_le (by simp; omega)]
          simp
        rw [escaped] at member
        exact absurd member (by decide)
      · omega
    rw [List.drop_append_of_le_length long, List.map_append, List.map_singleton, star_sign,
      decode_starred] at read
    cases read
  · exact (Option.some.inj read).symm

theorem mapM_last (f : List Nat → Option (List Nat)) (front : List (List Nat)) (last : List Nat)
    (found : List (List Nat)) (read : (front ++ [last]).mapM f = some found) :
    ∃ others label, found = others ++ [label] ∧ f last = some label := by
  induction front generalizing found with
  | nil =>
      simp only [List.nil_append, List.mapM_cons, List.mapM_nil, Option.pure_def,
        Option.bind_eq_bind] at read
      obtain ⟨label, here, rest⟩ := Option.bind_eq_some_iff.mp read
      cases rest
      exact ⟨[], label, rfl, here⟩
  | cons first front ih =>
      simp only [List.cons_append, List.mapM_cons, Option.bind_eq_bind] at read
      obtain ⟨head, -, rest⟩ := Option.bind_eq_some_iff.mp read
      obtain ⟨more, later, finished⟩ := Option.bind_eq_some_iff.mp rest
      cases finished
      obtain ⟨others, label, rfl, here⟩ := ih more later
      exact ⟨head :: others, label, rfl, here⟩

/-- A name in ASCII as the code points that it is looked up by. -/
def points (name : List Char) : List Nat := name.map fun c => c.toLower.toNat

theorem toLower_ascii (c : Char) (ascii : c.toNat < 128) :
    c.toLower.toNat < 128 ∧ (c.toLower.toNat = dot ↔ c = '.') := by
  have table : ∀ n : Fin 128, (Char.ofNat n).toLower.toNat < 128 ∧
      ((Char.ofNat n).toLower.toNat = dot ↔ Char.ofNat n = '.') := by decide
  have found := table ⟨c.toNat, ascii⟩
  simpa only [Char.ofNat_toNat] using found

theorem mapped_ascii (name : List Char) (ascii : ∀ c ∈ name, c.toNat < 128) :
    (name.flatMap fun c => mapPoint c.toNat) = points name ∧
      (points name).all (· < 128) = true := by
  constructor
  · induction name with
    | nil => rfl
    | cons c name ih =>
        have small := ascii c List.mem_cons_self
        have rest := ih fun d member => ascii d (List.mem_cons_of_mem _ member)
        have first : mapPoint c.toNat = [c.toLower.toNat] := by
          unfold mapPoint
          rw [if_pos small, Char.ofNat_toNat]
        rw [List.flatMap_cons, first, rest]
        rfl
  · rw [List.all_eq_true]
    intro n member
    obtain ⟨c, inside, rfl⟩ := List.mem_map.mp member
    simpa using (toLower_ascii c (ascii c inside)).1

theorem behind_points (name : List Char) (front label : List Nat)
    (ascii : ∀ c ∈ name, c.toNat < 128) (whole : points name = front ++ label)
    (behind : Behind dot front label) :
    ∃ ahead last, name = ahead ++ last ∧ Behind '.' ahead last ∧ last.length = label.length := by
  obtain ⟨ahead, last, rfl, frontEq, labelEq⟩ := List.map_eq_append_iff.mp whole
  have known : ∀ c ∈ ahead ++ last, (c.toLower.toNat = dot ↔ c = '.') :=
    fun c member => (toLower_ascii c (ascii c member)).2
  refine ⟨ahead, last, rfl, ⟨?_, ?_⟩, ?_⟩
  · intro dotted
    apply behind.unmarked
    rw [← labelEq, ← (known '.' (List.mem_append_right _ dotted)).mpr rfl]
    exact List.mem_map_of_mem dotted
  · rcases behind.ends with nothing | ends
    · rw [nothing] at frontEq
      exact .inl (List.map_eq_nil_iff.mp frontEq)
    · right
      rw [← frontEq, List.getLast?_map] at ends
      obtain ⟨c, final, same⟩ := Option.map_eq_some_iff.mp ends
      have member := List.mem_append_left last (List.mem_of_getLast? final)
      rw [final, (known c member).mp same]
  · rw [← labelEq, List.length_map]

theorem writeLabel_starred (label : List Nat) (small : ∀ n ∈ label ++ [star], n < 128) :
    writeLabel (label ++ [star]) = label.map Char.ofNat ++ ['*'] := by
  have plain : (label ++ [star]).all (· < 128) = true :=
    List.all_eq_true.mpr fun n member => decide_eq_true (small n member)
  rw [writeLabel, if_pos plain, List.map_append, List.map_singleton, star_sign]

theorem undotted_text (label : List Nat) (undotted : dot ∉ label) (small : ∀ n ∈ label, n < 128) :
    '.' ∉ label.map Char.ofNat := by
  intro dotted
  obtain ⟨n, member, point⟩ := List.mem_map.mp dotted
  have table : ∀ n : Fin 128, Char.ofNat n = '.' → n.val = dot := by decide
  have there := table ⟨n, small n member⟩ point
  exact undotted (there ▸ member)

/-- The name that a name in ASCII with a star behind it stands for, if it stands for one: its last
label is longer, by the star. -/
theorem toAscii_starred (name found : List Char) (ascii : ∀ c ∈ name, c.toNat < 128)
    (read : toAscii? (name ++ ['*']) = some found) :
    ∃ front last front' last', name = front ++ last ∧ Behind '.' front last ∧
      found = front' ++ (last' ++ ['*']) ∧ Behind '.' front' (last' ++ ['*']) ∧
      last'.length = last.length := by
  obtain ⟨mapped, small⟩ := mapped_ascii (name ++ ['*'])
    (List.forall_mem_append.mpr ⟨ascii, List.forall_mem_singleton.mpr (by decide)⟩)
  have grown : points (name ++ ['*']) = points name ++ [star] := by
    simp [points, star]
  obtain ⟨others, label, front, -, whole, ⟨undotted, ends⟩, -, grows⟩ := labels_last (points name)
  have cut := grows star (by decide)
  unfold toAscii? at read
  dsimp only at read
  rw [mapped, small, if_pos rfl, grown, cut] at read
  cases labels : (others ++ [label ++ [star]]).mapM readLabel with
  | none =>
      rw [labels] at read
      cases read
  | some all =>
      rw [labels] at read
      dsimp only at read
      obtain ⟨before, last, rfl, reads⟩ := mapM_last readLabel others _ all labels
      have same := readLabel_starred label last reads
      have lastSmall : ∀ n ∈ label ++ [star], n < 128 := by
        intro n member
        have inside : n ∈ points (name ++ ['*']) := by
          rw [grown, whole, List.append_assoc]
          exact List.mem_append_right _ member
        simpa using List.all_eq_true.mp small n inside
      have written := writeLabel_starred label lastSmall
      rw [← same] at written
      have unmarked : '.' ∉ label.map Char.ofNat ++ ['*'] :=
        List.not_mem_append (undotted_text label undotted fun n member =>
          lastSmall n (List.mem_append_left _ member)) (by decide)
      split at read
      · cases read
        obtain ⟨ahead, final, nameEq, behind, size⟩ :=
          behind_points name front label ascii whole ⟨undotted, ends⟩
        obtain ⟨front', text, behind'⟩ :=
          Text.intercalate_behind '.' (before.map writeLabel) _ unmarked
        refine ⟨ahead, final, front', label.map Char.ofNat, nameEq, behind, ?_, behind', ?_⟩
        · rw [List.map_append, List.map_singleton, written, text]
        · rw [List.length_map, size]
      · cases read

end DomainName

/-! ## Addresses -/

-- The star is no digit in any base.
theorem inBase_starred (base : Nat) (cs : List Char) (starred : '*' ∈ cs) :
    V4.inBase base cs = .none := by
  have some_ : cs.isEmpty = false := by
    cases cs with
    | nil => cases starred
    | cons c cs => rfl
  have unread := Text.mapM_none (fun c => (Text.hexValue? c).filter (· < base)) cs '*' starred rfl
  unfold V4.inBase
  rw [some_, if_neg Bool.false_ne_true, unread]

theorem numeral_starred (cs : List Char) (starred : '*' ∈ cs) : V4.numeral cs = .none := by
  have inner : ∀ (c : Char) (rest : List Char), c ≠ '*' → '*' ∈ c :: rest → '*' ∈ rest := by
    intro c rest other member
    exact (List.mem_cons.mp member).resolve_left fun same => other same.symm
  unfold V4.numeral
  split
  · rfl
  · exact inBase_starred 16 _ (inner _ _ (by decide) (inner _ _ (by decide) starred))
  · exact inBase_starred 16 _ (inner _ _ (by decide) (inner _ _ (by decide) starred))
  · exact inBase_starred 8 _ (inner _ _ (by decide) starred)
  · exact inBase_starred 10 cs starred

theorem not_address_starred (front last : List Char)
    (behind : Text.Behind '.' front (last ++ ['*'])) :
    V4.isAddress (front ++ (last ++ ['*'])) = false := by
  have pieces := Text.pieces_behind '.' front _ behind
  have whole : V4.parts (front ++ (last ++ ['*'])) = Text.pieces '.' (front ++ (last ++ ['*'])) := by
    unfold V4.parts
    dsimp only
    rw [pieces]
    simp
  unfold V4.isAddress
  rw [whole, pieces]
  have undigited : (last ++ ['*']).all Char.isDigit = false := by
    simp [show ('*').isDigit = false from rfl]
  simp [undigited, numeral_starred (last ++ ['*']) (by simp)]

/-! ## Hosts -/

theorem parse_starred (cs : List Char) (host other : Host) (read : Host.parse cs = .ok host)
    (starred : Host.parse (host.render ++ ['*']) = .ok other) : other ≠ host := by
  rintro rfl
  rcases parse_kinds cs other read with ⟨groups, rfl⟩ | ⟨-, plain⟩
  · have ends : (Net.Address.compressed groups ++ [']'] ++ ['*']).getLast? = some '*' := by simp
    have failed : Host.bracketed (Net.Address.compressed groups ++ [']'] ++ ['*']) =
        .error .badV6 := by
      unfold Host.bracketed
      rw [ends, if_neg (by decide)]
    have same : Host.parse ((Host.address (.v6 groups)).render ++ ['*']) =
        Host.bracketed (Net.Address.compressed groups ++ [']'] ++ ['*']) := rfl
    rw [same, failed] at starred
    cases starred
  · have unforbidden : ∀ c, DomainName.isForbidden c = true → c ∉ other.render := by
      intro c forbidden inside
      rw [(plain c inside).2] at forbidden
      cases forbidden
    have decoded := Percent.decode_plain (other.render ++ ['*'])
      (List.not_mem_append (unforbidden '%' rfl) (by decide))
    unfold Host.parse at starred
    split at starred
    · rename_i rest shape
      have bracket : '[' ∈ other.render ++ ['*'] := by
        rw [shape]
        exact List.mem_cons_self
      exact absurd bracket (List.not_mem_append (unforbidden '[' rfl) (by decide))
    · rw [decoded, Option.bind_some] at starred
      split at starred
      · cases starred
      · cases starred
      · rename_i name _ found
        obtain ⟨front, last, front', last', text, behind, rfl, behind', size⟩ :=
          DomainName.toAscii_starred other.render name (fun c member => (plain c member).1) found
        rw [not_address_starred front' last' behind', if_neg Bool.false_ne_true] at starred
        cases starred
        have same := Text.last_unique '.' front last front' _ behind behind' text.symm
        rw [same, List.length_append] at size
        simp at size

theorem placeIn_starred (url : Url) (host : Host) (list : List (List Char)) (place : Place)
    (e : List Char) (hosted : Hosted url host list)
    (read : placeIn true false (url.front ++ ['*']) = .ok (place, e)) : place.host ≠ host := by
  have free : '@' ∉ url.authority ++ ['*'] :=
    List.not_mem_append hosted.authority_chars.2 (by decide)
  obtain ⟨who, info⟩ := hosted.infoIn_userInfo (url.authority ++ ['*']) free (by simp)
  rw [front, List.append_assoc] at read
  obtain ⟨b, d, first, second, third⟩ := place_ok true (infoIn false _) place e read
  cases info.symm.trans first
  have dropped := splitHost_rest true _ d place.host second
  have size := hosted.host_text.counted true (Hosted.portText url.port ++ ['*'])
  rw [hosted.authority_eq, List.append_assoc] at second dropped
  rw [size] at dropped
  cases written : url.port with
  | some number =>
      -- The star stands behind the digits of the port, where nothing is read.
      rw [written] at dropped
      have stop : hostLength true false (Hosted.portText (some number) ++ ['*']) = 0 := rfl
      rw [stop, Nat.add_zero, List.drop_left] at dropped
      have failed := portBehind_open number '*' [] rfl rfl
      rw [dropped] at third
      change portBehind (Text.natText number ++ ['*']) = _ at third
      rw [failed] at third
      cases third
  | none =>
      -- The star stands behind the host and is read with it.
      rw [written] at second size
      have length : hostLength true false (Hosted.portText none ++ ['*']) = 1 := rfl
      rw [length] at size
      have whole : (host.render ++ (Hosted.portText none ++ ['*'])).take (host.render.length + 1) =
          host.render ++ ['*'] := by
        apply List.take_of_length_le
        simp [Hosted.portText]
      obtain ⟨cs, named⟩ := hosted.host_read
      obtain ⟨parsed, -, -⟩ := splitHost_known true _ d place.host second
      rw [size, whole] at parsed
      exact parse_starred cs host place.host named parsed

/-! ## Paths -/

-- All the spellings of dots end with a dot or with a letter.
theorem no_dots_starred (segment : List Char) :
    Path.isDoubleDot (segment ++ ['*']) = false ∧ Path.isSingleDot (segment ++ ['*']) = false := by
  have ends : (Text.lower (segment ++ ['*'])).getLast? = some '*' := by
    rw [Text.lower, List.map_append, List.getLast?_append]
    rfl
  have other : ∀ dots : String, dots.toList.getLast? ≠ some '*' →
      String.ofList (Text.lower (segment ++ ['*'])) ≠ dots := by
    rintro dots unstarred rfl
    rw [String.toList_ofList] at unstarred
    exact unstarred ends
  constructor
  · simp [Path.isDoubleDot, other ".." (by decide), other ".%2e" (by decide),
      other "%2e." (by decide), other "%2e%2e" (by decide)]
  · simp [Path.isSingleDot, other "." (by decide), other "%2e" (by decide)]

theorem settled_starred (segment : List Char) (settled : Path.Settled segment) :
    Path.Settled (segment ++ ['*']) where
  unescaped := by
    have sign : Percent.encode escapedInPath ['*'] = ['*'] := by decide
    rw [Percent.encode, List.flatMap_append]
    exact congrArg₂ (· ++ ·) settled.unescaped sign
  whole := List.forall_mem_append.mpr ⟨settled.whole, List.forall_mem_singleton.mpr rfl⟩
  no_double_dot := (no_dots_starred segment).1
  no_single_dot := (no_dots_starred segment).2

theorem hostedPath_starred (list : List (List Char)) (some_ : list ≠ [])
    (settled : ∀ segment ∈ list, Path.Settled segment) :
    Path.render (hostedPath false true (Path.render list ++ ['*'])) = Path.render list ++ ['*'] := by
  rcases List.eq_nil_or_concat list with rfl | ⟨front, last, rfl⟩
  · exact absurd rfl some_
  · rw [List.concat_eq_append] at settled ⊢
    have text : Path.render (front ++ [last]) ++ ['*'] = Path.render (front ++ [last ++ ['*']]) := by
      rw [Path.render_append, Path.render_append]
      simp [Path.render]
    rw [text, Path.hostedPath_render _ (by simp)]
    intro segment member
    refine Path.Settled.within ?_ true
    rcases List.mem_append.mp member with inside | final
    · exact settled segment (List.mem_append_left _ inside)
    · rw [List.mem_singleton.mp final]
      exact settled_starred last (settled last (by simp))

end Url

end AccessGate
