import AccessGate.Proofs.Form
import AccessGate.Proofs.Url.LetterCase
import AccessGate.Proofs.Url.Reading

/-!
The query of a URL whose text ends in one. What stands in front of the mark decides whether there is a URL
and what it is otherwise; the query is carried along.
-/

namespace AccessGate.Url

/-! ## Readers -/

theorem unended_of_all (p : Char → Bool) (other : p '?' = false ∧ p '#' = false) (cs : List Char)
    (all : cs.all p = true) : ∀ c ∈ cs, endsPath c = false := by
  intro c member
  have listed := List.all_eq_true.mp all c member
  cases ends : endsPath c with
  | false => rfl
  | true =>
      simp only [endsPath, Bool.or_eq_true, beq_iff_eq] at ends
      rcases ends with rfl | rfl
      · cases other.1.symm.trans listed
      · cases other.2.symm.trans listed

/-- How a text with a query behind its front is read: it fails whatever the query is, or gives one URL that
ends in it. -/
inductive Carries (front : List Char) (read : List Char → Except UrlError Url) : Prop where
  | fails (e : UrlError) (always : ∀ query, read query = .error e)
  | ends (url : Url) (rest : List Char) (inner : ∀ c ∈ rest, c ∈ front)
      (opens : ∀ c, rest.head? = some c → endsPath c = true)
      (always : ∀ query, read query = .ok (withTail url (rest ++ '?' :: query)))

theorem Carries.mono {front larger : List Char} {read : List Char → Except UrlError Url}
    (inside : ∀ c ∈ front, c ∈ larger) (carries : Carries front read) : Carries larger read := by
  cases carries with
  | fails e always => exact .fails e always
  | ends url rest inner opens always =>
      exact .ends url rest (fun c member => inside c (inner c member)) opens always

-- The path ends within the front, or at the mark behind it.
theorem carries_split (front : List Char) (url : List Char → Url) :
    Carries front fun query =>
      .ok (withTail (url (splitPath (front ++ '?' :: query)).1)
        (splitPath (front ++ '?' :: query)).2) := by
  have split : ∀ query, splitPath (front ++ '?' :: query) =
      (front.takeWhile (!endsPath ·), front.dropWhile (!endsPath ·) ++ '?' :: query) := by
    intro query
    unfold splitPath
    simp only [Text.takeWhile_mark (!endsPath ·) '?' rfl, Text.drop_mark]
  refine .ends (url (front.takeWhile (!endsPath ·))) (front.dropWhile (!endsPath ·)) ?_ ?_ ?_
  · exact fun c member => (List.dropWhile_suffix _).subset member
  · intro c first
    simpa using Text.head?_dropWhile _ front c first
  · intro query
    rw [split]

theorem mem_placeIn (special last : Bool) (a e : List Char) (place : Place)
    (read : placeIn special last a = .ok (place, e)) : ∀ c ∈ e, c ∈ a := by
  obtain ⟨b, d, first, second, third⟩ := place_ok special (infoIn last a) place e read
  intro c member
  apply mem_infoIn last a b place.who first
  have host := splitHost_rest special b d place.host second
  apply List.mem_of_mem_drop (i := hostLength special false b)
  rw [← host]
  unfold portAhead at third
  split at third
  · rename_i digits
    obtain ⟨behind, -, -⟩ := portBehind_ok digits e place.port third
    rw [behind] at member
    exact List.mem_cons_of_mem _ (List.mem_of_mem_drop member)
  · rw [(Prod.mk.inj (Except.ok.inj third)).2]
    exact member

theorem hosted_carries (scheme front : List Char) :
    Carries front fun query => parseHosted scheme (front ++ '?' :: query) := by
  let special := isSpecial scheme
  let name := front.takeWhile (!endsAuthority special ·)
  let behind := front.dropWhile (!endsAuthority special ·)
  have shape : ∀ query, front ++ '?' :: query = name ++ (behind ++ '?' :: query) := by
    intro query
    rw [← List.append_assoc, List.takeWhile_append_dropWhile]
  have closes : ∀ query, Closes special (behind ++ '?' :: query) := by
    intro query c first
    cases back : behind with
    | nil =>
        rw [back] at first
        cases first
        simp [endsAuthority, endsPath]
    | cons d rest =>
        rw [back] at first
        cases first
        exact closes_dropWhile special front c (by rw [show front.dropWhile _ = behind from rfl, back]; rfl)
  have read : ∀ query, parseHosted scheme (front ++ '?' :: query) =
      (placeIn special false name).map fun found =>
        placed scheme found.1 (found.2 ++ (behind ++ '?' :: query)) := by
    intro query
    have more : (behind ++ '?' :: query).isEmpty = false := by simp
    rw [parseHosted_eq, shape, placeAhead_append special name _ (inside_takeWhile special front)
      (closes query), more]
    cases placeIn special false name with
    | error e => rfl
    | ok pair => rfl
  cases found : placeIn special false name with
  | error e =>
      refine .fails e fun query => ?_
      rw [read, found]
      rfl
  | ok pair =>
      obtain ⟨place, e⟩ := pair
      have carried := carries_split (e ++ behind) fun path =>
        ⟨scheme, place.who.username, place.who.password, some place.host, keptPort scheme place.port,
          .segments (hostedPath false (isSpecial scheme) path), none, none⟩
      have inside : ∀ c ∈ e ++ behind, c ∈ front := by
        intro c member
        rcases List.mem_append.mp member with early | late
        · exact List.takeWhile_subset _ (mem_placeIn special false name e place found c early)
        · exact (List.dropWhile_suffix _).subset late
      have same : ∀ query, parseHosted scheme (front ++ '?' :: query) =
          .ok (placed scheme place ((e ++ behind) ++ '?' :: query)) := by
        intro query
        rw [read, found, List.append_assoc]
        rfl
      simp only [same]
      exact carried.mono inside

theorem file_carries_split (host : Host) (front : List Char) (segments : List Char → List (List Char)) :
    Carries front fun query =>
      .ok (fileUrl host (segments (splitPath (front ++ '?' :: query)).1)
        (splitPath (front ++ '?' :: query)).2) := by
  unfold fileUrl
  exact carries_split front fun path =>
    ⟨"file".toList, [], [], some (if Path.onDrive (segments path) then .domain [] else host), none,
      .segments (Path.dropEmpty (segments path)), none, none⟩

theorem fileHost_carries (front : List Char) :
    Carries front fun query => parseFileHost (front ++ '?' :: query) := by
  have text : ∀ query, (front ++ '?' :: query).takeWhile (!endsAuthority true ·) =
      front.takeWhile (!endsAuthority true ·) := Text.takeWhile_mark _ '?' rfl front
  have behind : ∀ c ∈ front.dropWhile (!endsAuthority true ·), c ∈ front :=
    fun c member => (List.dropWhile_suffix _).subset member
  unfold parseFileHost
  simp only [text, Text.drop_mark]
  by_cases drive : Path.isDrive (front.takeWhile (!endsAuthority true ·)) = true
  · simp only [drive, if_true, List.isEmpty_nil]
    exact file_carries_split (.domain []) front (Path.segments true true)
  · simp only [drive, if_false, Bool.false_eq_true]
    by_cases bare : (front.takeWhile (!endsAuthority true ·)).isEmpty = true
    · simp only [bare, if_true]
      exact (file_carries_split (.domain []) _ (Path.segments true true)).mono behind
    · simp only [bare, if_false, Bool.false_eq_true]
      cases Host.parse (front.takeWhile (!endsAuthority true ·)) with
      | error e => exact .fails e fun query => rfl
      | ok host =>
          by_cases home : host = .domain "localhost".toList
          · simp only [home, if_true]
            exact (file_carries_split (.domain []) _ (Path.segments true true)).mono behind
          · simp only [home, if_false]
            exact (file_carries_split host _ (hostedPath true true)).mono behind

theorem file_carries (front : List Char) :
    Carries front fun query => parseFile (front ++ '?' :: query) := by
  have mark : Path.isSeparator true '?' = false := by decide
  rcases front with _ | ⟨a, _ | ⟨b, front⟩⟩
  · have same : ∀ query, parseFile ([] ++ '?' :: query) =
        .ok (fileUrl (.domain []) (Path.segments true true (splitPath ([] ++ '?' :: query)).1)
          (splitPath ([] ++ '?' :: query)).2) := by
      intro query
      cases query with
      | nil => rfl
      | cons c query =>
          simp only [parseFile, List.nil_append, mark, Bool.false_eq_true, false_and, if_false]
    simp only [same]
    exact file_carries_split (.domain []) [] (Path.segments true true)
  · simp only [parseFile, List.cons_append, List.nil_append, mark, Bool.false_eq_true, and_false, if_false]
    by_cases slash : Path.isSeparator true a = true
    · simp only [slash, if_true]
      exact file_carries_split (.domain []) [a] fun path => Path.segments true true path.tail
    · simp only [slash, if_false, Bool.false_eq_true]
      exact file_carries_split (.domain []) [a] (Path.segments true true)
  · simp only [parseFile, List.cons_append]
    by_cases slash : Path.isSeparator true a = true
    · by_cases second : Path.isSeparator true b = true
      · simp only [slash, second, and_self, if_true]
        exact (fileHost_carries front).mono fun c member =>
          List.mem_cons_of_mem a (List.mem_cons_of_mem b member)
      · simp only [slash, second, and_false, if_false, if_true, Bool.false_eq_true]
        exact file_carries_split (.domain []) (a :: b :: front) fun path =>
          Path.segments true true path.tail
    · simp only [slash, false_and, if_false, Bool.false_eq_true]
      exact file_carries_split (.domain []) (a :: b :: front) (Path.segments true true)

theorem plain_carries (scheme front : List Char) :
    Carries front fun query => parsePlain scheme (front ++ '?' :: query) := by
  have texts : ∀ front, (∀ rest, front ≠ '/' :: rest) → Carries front fun query =>
      parsePlain scheme (front ++ '?' :: query) := by
    intro front other
    have same : ∀ query, parsePlain scheme (front ++ '?' :: query) = .ok (withTail
        ⟨scheme, [], [], none, none,
          .text (Percent.encode Host.isControl (splitPath (front ++ '?' :: query)).1), none, none⟩
        (splitPath (front ++ '?' :: query)).2) := by
      intro query
      cases front with
      | nil => rfl
      | cons c front =>
          have unslashed : ∀ rest, c :: front ++ '?' :: query ≠ '/' :: rest := by
            intro rest shape
            exact other front (congrArg (· :: front) (List.cons.inj shape).1)
          unfold parsePlain
          split
          · rename_i rest shape
            exact absurd shape (unslashed _)
          · rename_i rest _ shape
            exact absurd shape (unslashed rest)
          · rfl
    simp only [same]
    exact carries_split front fun path =>
      ⟨scheme, [], [], none, none, .text (Percent.encode Host.isControl path), none, none⟩
  cases front with
  | nil => exact texts [] nofun
  | cons a front =>
      by_cases slash : a = '/'
      · subst slash
        by_cases hosted : ∃ rest, front = '/' :: rest
        · obtain ⟨rest, rfl⟩ := hosted
          exact (hosted_carries scheme rest).mono fun c member =>
            List.mem_cons_of_mem '/' (List.mem_cons_of_mem '/' member)
        · have same : ∀ query, parsePlain scheme ('/' :: front ++ '?' :: query) = .ok (withTail
              ⟨scheme, [], [], none, none,
                .segments (Path.segments false false (splitPath (front ++ '?' :: query)).1), none, none⟩
              (splitPath (front ++ '?' :: query)).2) := by
            intro query
            unfold parsePlain
            split
            · rename_i rest shape
              exfalso
              rcases front with _ | ⟨c, front⟩
              · cases shape
              · cases shape
                exact hosted ⟨front, rfl⟩
            · rename_i rest unslashed shape
              cases shape
              rfl
            · rename_i once twice
              exact absurd rfl (twice (front ++ '?' :: query))
          simp only [same]
          exact (carries_split front fun path =>
            ⟨scheme, [], [], none, none, .segments (Path.segments false false path), none, none⟩).mono
              fun c member => List.mem_cons_of_mem '/' member
      · exact texts (a :: front) fun rest shape => slash (List.cons.inj shape).1

theorem splitScheme_query (front query : List Char) :
    splitScheme (front ++ '?' :: query) =
      (splitScheme front).map fun (scheme, rest) => (scheme, rest ++ '?' :: query) := by
  cases ended : front.all isSchemeChar with
  | false => exact splitScheme_append front ('?' :: query) ended
  | true =>
      have whole : front.takeWhile isSchemeChar = front := by
        simpa using Text.takeWhile_all isSchemeChar front [] (List.all_eq_true.mp ended) nofun
      have unread : splitScheme front = none := by
        unfold splitScheme
        simp only [whole, List.drop_length, ite_self]
      rw [unread]
      unfold splitScheme
      simp only [Text.takeWhile_mark isSchemeChar '?' (by decide), whole, List.drop_left]
      split <;> rfl

theorem mem_splitScheme (front scheme rest : List Char)
    (read : splitScheme front = some (scheme, rest)) : ∀ c ∈ rest, c ∈ front := by
  intro c member
  unfold splitScheme at read
  split at read
  · dsimp only at read
    split at read
    · rename_i behind shape
      cases read
      apply List.mem_of_mem_drop (i := (front.takeWhile isSchemeChar).length)
      rw [shape]
      exact List.mem_cons_of_mem ':' member
    · cases read
  · cases read

theorem solid_carries (front : List Char) :
    Carries front fun query => parseSolid (front ++ '?' :: query) := by
  unfold parseSolid
  simp only [splitScheme_query]
  cases schemed : splitScheme front with
  | none => exact .fails .relative fun query => rfl
  | some pair =>
      obtain ⟨scheme, rest⟩ := pair
      have inside := mem_splitScheme front scheme rest schemed
      simp only [Option.map_some]
      by_cases file : isFile scheme = true
      · simp only [file, if_true]
        exact (file_carries rest).mono inside
      · by_cases special : isSpecial scheme = true
        · have dropped : ∀ query, (rest ++ '?' :: query).dropWhile (Path.isSeparator true) =
              rest.dropWhile (Path.isSeparator true) ++ '?' :: query :=
            Text.dropWhile_mark _ '?' (by decide) rest
          simp only [file, special, if_true, if_false, Bool.false_eq_true, dropped]
          exact (hosted_carries scheme _).mono fun c member =>
            inside c ((List.dropWhile_suffix _).subset member)
        · simp only [file, special, if_false, Bool.false_eq_true]
          exact (plain_carries scheme rest).mono inside

/-! ## What counts of the text -/

def isBlank (c : Char) : Bool := decide (c.toNat ≤ 0x20)

-- Blanks in front do not count, and the query has none at its end.
theorem parse_query (front query : List Char) (solid : query.all isSolid = true) :
    parse (front ++ '?' :: query) = parseSolid (untabbed (front.dropWhile isBlank) ++ '?' :: query) := by
  have marked : ('?' :: query).all isSolid = true := by
    rw [List.all_cons, solid]
    decide
  have ahead := Text.dropWhile_mark isBlank '?' (by decide) front query
  have first : ∀ c, (front.dropWhile isBlank ++ '?' :: query).head? = some c → isSolid c = true := by
    intro c begins
    rw [← ahead] at begins
    have kept := Text.head?_dropWhile _ _ c begins
    simp only [isBlank, decide_eq_false_iff_not, Nat.not_le] at kept
    simpa [isSolid] using kept
  have again : cleaned (front ++ '?' :: query) = cleaned (front.dropWhile isBlank ++ '?' :: query) := by
    have twice : (front.dropWhile isBlank ++ '?' :: query).dropWhile isBlank =
        front.dropWhile isBlank ++ '?' :: query := dropWhile_blanks _ first
    unfold cleaned
    change List.filter _ (List.reverse (List.dropWhile _ (List.reverse (List.dropWhile isBlank _)))) =
      List.filter _ (List.reverse (List.dropWhile _ (List.reverse (List.dropWhile isBlank _))))
    rw [ahead, twice]
  rw [parse_eq, again, cleaned_append _ _ first marked (List.cons_ne_nil _ _)]

theorem cut_unmarked (cs : List Char) (unmarked : '#' ∉ cs) : Text.cut '#' cs = (cs, none) := by
  have whole := Form.cut_front '#' cs [] unmarked
  rwa [List.append_nil, Text.cut, List.append_nil] at whole

theorem withTail_query (url : Url) (query : List Char) (unmarked : '#' ∉ query) :
    withTail url ('?' :: query) =
      { url with
        query := some (Percent.encode (escapedInQuery (isSpecial url.scheme)) query), fragment := none } := by
  simp only [withTail, tail, cut_unmarked query unmarked, Option.map_none]

/-- The query of a URL that ends in one: what was read in front of it may have begun a query or a fragment
already. -/
theorem query_withTail (url : Url) (rest : List Char)
    (opens : ∀ c, rest.head? = some c → endsPath c = true) :
    (∃ fixed, ∀ query, (withTail url (rest ++ '?' :: query)).query = fixed) ∨
      ∃ more, ∀ query, '#' ∉ query → (withTail url (rest ++ '?' :: query)).query =
        some (Percent.encode (escapedInQuery (isSpecial url.scheme)) (more ++ query)) := by
  cases rest with
  | nil => exact .inr ⟨[], fun query unmarked => congrArg Url.query (withTail_query url query unmarked)⟩
  | cons c rest =>
      have ends := opens c rfl
      simp only [endsPath, Bool.or_eq_true, beq_iff_eq] at ends
      rcases ends with rfl | rfl
      · by_cases marked : '#' ∈ rest
        · obtain ⟨front, behind, shape, free⟩ := List.eq_append_cons_of_mem marked
          refine .inl ⟨some (Percent.encode (escapedInQuery (isSpecial url.scheme)) front), ?_⟩
          intro query
          have same : (Text.cut '#' (rest ++ '?' :: query)).1 = front := by
            rw [shape, List.append_assoc, Form.cut_front '#' front _ free]
            simp [Text.cut]
          simp only [withTail, tail, List.cons_append, same]
        · refine .inr ⟨rest ++ ['?'], fun query unmarked => ?_⟩
          have same := cut_unmarked (rest ++ '?' :: query) (by simp [marked, unmarked])
          rw [List.append_assoc, List.singleton_append]
          simp only [withTail, tail, List.cons_append, same]
      · exact .inl ⟨none, fun query => rfl⟩

/-! ## What a query says -/

theorem ascii_of_hex (c : Char) (digit : Text.hexValue? c ≠ none) : c.toNat < 0x80 := by
  unfold Text.hexValue? at digit
  split at digit
  · rename_i decimal
    simp only [Char.isDigit, Bool.and_eq_true, decide_eq_true_eq, UInt32.le_iff_toNat_le] at decimal
    simp at decimal
    omega
  · split at digit
    · rename_i letter
      have bound : c.toNat ≤ 'f'.toNat := UInt32.le_iff_toNat_le.mp letter.2
      exact Nat.lt_of_le_of_lt bound (by decide)
    · split at digit
      · rename_i letter
        have bound : c.toNat ≤ 'F'.toNat := UInt32.le_iff_toNat_le.mp letter.2
        exact Nat.lt_of_le_of_lt bound (by decide)
      · exact absurd rfl digit

theorem harmless_query (special : Bool) : Percent.Harmless (escapedInQuery special) where
  kept := by
    have table : ∀ special : Bool, ∀ n : Fin 128,
        (Char.ofNat n ∈ "%&=+".toList ∨ Text.hexValue? (Char.ofNat n) ≠ none) →
          escapedInQuery special (Char.ofNat n) = false := by decide
    intro c listed
    have ascii : c.toNat < 0x80 := by
      rcases listed with mark | digit
      · exact Text.each_of_all "%&=+".toList (fun c => c.toNat < 0x80) (by decide) c mark
      · exact ascii_of_hex c digit
    exact ⟨ascii, Text.of_ascii (fun c => (c ∈ "%&=+".toList ∨ Text.hexValue? c ≠ none) →
      escapedInQuery special c = false) (table special) c ascii listed⟩

variable {escaped : Char → Bool}

theorem queryPairs_same (harmless : Percent.Harmless escaped) (front a b : List Char) (first second : Url)
    (solid : a.all isSolid = true ∧ b.all isSolid = true) (unmarked : '#' ∉ a ∧ '#' ∉ b)
    (same : Percent.encode escaped a = Percent.encode escaped b)
    (one : parse (front ++ '?' :: a) = .ok first) (other : parse (front ++ '?' :: b) = .ok second) :
    first.queryPairs = second.queryPairs := by
  rw [parse_query front a solid.1] at one
  rw [parse_query front b solid.2] at other
  cases solid_carries (untabbed (front.dropWhile isBlank)) with
  | fails e always => cases (always a).symm.trans one
  | ends url rest inner opens always =>
      cases (always a).symm.trans one
      cases (always b).symm.trans other
      unfold queryPairs
      rcases query_withTail url rest opens with ⟨fixed, alike⟩ | ⟨more, behind⟩
      · rw [alike, alike]
      · rw [behind a unmarked.1, behind b unmarked.2, Option.getD_some, Option.getD_some,
          Form.parse_encode (harmless_query _), Form.parse_encode (harmless_query _),
          ← Form.parse_encode harmless, ← Form.parse_encode harmless (more ++ b)]
        simp only [Percent.encode, List.flatMap_append] at same ⊢
        rw [same]

/-- Behind a front in which nothing ends a path there is one URL for all queries, but for the query. -/
theorem parse_unended (front : List Char) (unended : ∀ c ∈ front, endsPath c = false) :
    (∃ e, ∀ query, query.all isSolid = true → parse (front ++ '?' :: query) = .error e) ∨
      ∃ url : Url, ∀ query, query.all isSolid = true → '#' ∉ query →
        parse (front ++ '?' :: query) = .ok { url with
          query := some (Percent.encode (escapedInQuery (isSpecial url.scheme)) query),
          fragment := none } := by
  cases solid_carries (untabbed (front.dropWhile isBlank)) with
  | fails e always =>
      exact .inl ⟨e, fun query solid => (parse_query front query solid).trans (always query)⟩
  | ends url rest inner opens always =>
      have nothing : rest = [] := by
        cases rest with
        | nil => rfl
        | cons c rest =>
            have inside := inner c List.mem_cons_self
            have there := (List.dropWhile_suffix _).subset (List.mem_of_mem_filter inside)
            cases (unended c there).symm.trans (opens c rfl)
      subst nothing
      refine .inr ⟨url, fun query solid unmarked => ?_⟩
      rw [parse_query front query solid, always query, List.nil_append,
        withTail_query url query unmarked]

end AccessGate.Url
