import AccessGate.Http.Target
import AccessGate.Proofs.Url.Detour

/-!
The characters of request targets. What a listener has read holds no blank and no control, and its
authority has nothing that ends an authority, in any kind of URL.
-/

namespace AccessGate.Http

namespace Authority

/-- The characters of an authority: none of them ends it. -/
def isWithin (c : Char) : Bool := (isTargetChar c || c == '%') && !endsAuthority c

theorem isWithin_of_alphanum (c : Char) (known : c.isAlphanum = true) : isWithin c = true := by
  have other : endsAuthority c = false := by
    cases found : endsAuthority c with
    | false => rfl
    | true =>
        simp only [endsAuthority, Bool.or_eq_true, beq_iff_eq] at found
        rcases found with (rfl | rfl) | rfl
        · cases known
        · cases known
        · cases known
  simp [isWithin, isTargetChar, known, other]

theorem isWithin_of_letter (c : Char) (letter : c.isAlpha = true) : isWithin c = true := by
  apply isWithin_of_alphanum
  simp [Char.isAlphanum, letter]

theorem isWithin_of_digit (c : Char) (digit : c.isDigit = true) : isWithin c = true := by
  apply isWithin_of_alphanum
  simp [Char.isAlphanum, digit]

-- Every character passes a step of its own, and only the last state is looked at afterwards.
theorem scan_chars (s last : Scan) (cs : List Char) (scanned : scan s cs = .ok last) :
    ∀ c ∈ cs, (isTargetChar c || c == '%') = true := by
  induction cs generalizing s with
  | nil =>
      intro c member
      cases member
  | cons d cs ih =>
      simp only [scan] at scanned
      cases stepped : s.step d with
      | error e =>
          rw [stepped] at scanned
          cases scanned
      | ok next =>
          rw [stepped] at scanned
          intro c member
          rcases List.mem_cons.mp member with rfl | later
          · unfold Scan.step at stepped
            split at stepped
            · rfl
            · rfl
            · rfl
            · rfl
            · rfl
            · split at stepped
              · rename_i known
                simp [known]
              · cases stepped
          · exact ih next scanned c later

theorem ahead_ok (cs name rest : List Char) (read : ahead cs = .ok (name, rest)) :
    name = cs.takeWhile (!endsAuthority ·) ∧ rest = cs.dropWhile (!endsAuthority ·) ∧
      name.all isWithin = true := by
  unfold ahead at read
  dsimp only at read
  cases scanned : scan .start (cs.takeWhile (!endsAuthority ·)) with
  | error e =>
      rw [scanned] at read
      cases read
  | ok last =>
      simp only [scanned] at read
      split at read
      · cases read
        refine ⟨rfl, Text.drop_takeWhile _ cs, ?_⟩
        rw [List.all_eq_true]
        intro c member
        have known := scan_chars _ last _ scanned c member
        have inner := Text.mem_takeWhile _ cs c member
        simp only [isWithin, known, inner, Bool.and_self]
      · cases read

theorem parse_within (cs name : List Char) (read : parse cs = .ok name) :
    name.all isWithin = true := by
  unfold parse at read
  split at read
  · cases read
  · split at read
    · cases read
    · rename_i found
      cases read
      exact (ahead_ok _ _ _ found).2.2
    · cases read

theorem mem_afterLast (mark : Char) (cs : List Char) (c : Char) (member : c ∈ afterLast mark cs) :
    c ∈ cs := by
  rw [afterLast, List.mem_reverse] at member
  exact List.mem_reverse.mp (List.takeWhile_subset _ member)

theorem host_within (name : List Char) (within : name.all isWithin = true) :
    (host name).all isWithin = true := by
  rw [List.all_eq_true] at within ⊢
  have inner : ∀ c ∈ afterLast '@' name, isWithin c = true :=
    fun c member => within c (mem_afterLast '@' name c member)
  unfold host
  intro c member
  dsimp only at member
  split at member
  · rename_i rest shape
    rcases List.mem_append.mp member with front | bracket
    · exact inner c (List.takeWhile_subset _ front)
    · rw [List.mem_singleton.mp bracket]
      decide
  · exact inner c (List.takeWhile_subset _ member)

theorem normal_within (name : List Char) (within : name.all isWithin = true) :
    (normal name).all isWithin = true := by
  have lowered := Text.lower_all isWithin isWithin_of_letter _ (host_within name within)
  unfold normal
  dsimp only
  split
  · rename_i port found
    rw [List.all_append, lowered, List.all_cons]
    have colon : isWithin ':' = true := by decide
    have digits : (Text.natText port).all isWithin = true := by
      rw [List.all_eq_true]
      intro c member
      exact isWithin_of_digit c (Text.natText_digits port c member)
    rw [colon, digits]
    rfl
  · exact lowered

theorem isSolid_of_within (c : Char) (within : isWithin c = true) : Url.isSolid c = true := by
  simp only [isWithin, isTargetChar, Bool.and_eq_true, Bool.or_eq_true, beq_iff_eq] at within
  rcases within.1 with (known | listed) | rfl
  · have range := Text.alphanum_range c known
    simp only [Url.isSolid, decide_eq_true_eq]
    omega
  · have solid : "!#$&'()*+,-./:;=?@[]_~".toList.all Url.isSolid = true := by decide
    exact List.all_eq_true.mp solid c (List.contains_iff_mem.mp listed)
  · decide

theorem solid_of_within (cs : List Char) (within : cs.all isWithin = true) : cs.all Url.isSolid = true :=
  List.all_eq_true.mpr fun c member => isSolid_of_within c (List.all_eq_true.mp within c member)

theorem not_ends_of_within (c : Char) (within : isWithin c = true) :
    Url.endsAuthority true c = false := by
  cases found : Url.endsAuthority true c with
  | false => rfl
  | true =>
      simp only [Url.endsAuthority, Url.endsPath, Bool.true_and, Bool.or_eq_true,
        beq_iff_eq] at found
      rcases found with (rfl | rfl | rfl) | rfl
      · cases within
      · cases within
      · cases within
      · cases within

end Authority

namespace Target

/-- A scheme as it stands in a target that was read. -/
def IsScheme (scheme : List Char) : Prop :=
  scheme = "http".toList ∨ scheme = "https".toList ∨
    (scheme.all isSchemeChar = true ∧ scheme.length ≤ maxScheme ∧
      Text.lower scheme ≠ "http".toList ∧ Text.lower scheme ≠ "https".toList)

/-- A path and a query as they stand in a target that was read. -/
structure Clean (path : List Char) (query : Option (List Char)) : Prop where
  path_chars : path.all isPathChar = true
  query_chars : (query.getD []).all isQueryChar = true

/-- The forms of targets that were read. -/
inductive WellFormed : Target → Prop where
  | star : WellFormed (.origin ['*'] none)
  | origin (path : List Char) (query : Option (List Char)) (clean : Clean ('/' :: path) query) :
      WellFormed (.origin ('/' :: path) query)
  | absolute (scheme name path : List Char) (query : Option (List Char)) (known : IsScheme scheme)
      (named : name ≠ []) (within : name.all Authority.isWithin = true)
      (rooted : path = [] ∨ path.head? = some '/') (clean : Clean path query) :
      WellFormed (.absolute scheme name path query)
  | bare (name : List Char) (within : name.all Authority.isWithin = true) : WellFormed (.bare name)

theorem WellFormed.authority_within {target : Target} (formed : target.WellFormed) (name : List Char)
    (named : target.authority? = some name) : name.all Authority.isWithin = true := by
  cases formed with
  | star => cases named
  | origin path query clean => cases named
  | absolute scheme name path query schemed some_ within rooted clean =>
      cases named
      exact within
  | bare name within =>
      cases named
      exact within

theorem pathAndQuery_ok (cs path : List Char) (query : Option (List Char))
    (read : pathAndQuery cs = .ok (path, query)) :
    path = cs.takeWhile (fun c => c != '?' && c != '#') ∧ Clean path query := by
  unfold pathAndQuery at read
  dsimp only at read
  split at read
  · rename_i chars
    split at read
    · split at read
      · rename_i queried
        cases read
        exact ⟨rfl, chars, queried⟩
      · cases read
    · cases read
      exact ⟨rfl, chars, rfl⟩
  · cases read

theorem schemeAhead_ok (cs scheme rest : List Char)
    (read : schemeAhead cs = .ok (some (scheme, rest))) :
    IsScheme scheme := by
  have chars : (cs.takeWhile isSchemeChar).all isSchemeChar = true := List.all_takeWhile
  unfold schemeAhead at read
  dsimp only at read
  split at read
  · split at read
    · rename_i known
      cases read
      rcases known with http | https
      · exact .inl http
      · exact .inr (.inl https)
    · rename_i other
      split at read
      · cases read
      · split at read
        · cases read
        · rename_i short
          cases read
          refine .inr (.inr ⟨chars, Nat.le_of_not_lt short, ?_, ?_⟩)
          · exact fun http => other (.inl http)
          · exact fun https => other (.inr https)
  · cases read

/-- How a text becomes a target: it is a star, it begins with a slash, or it is read with an authority. -/
inductive ReadAs : List Char → Target → Prop
  | star : ReadAs ['*'] (.origin ['*'] none)
  | origin (rest path : List Char) (query : Option (List Char))
      (split : pathAndQuery ('/' :: rest) = .ok (path, query)) : ReadAs ('/' :: rest) (.origin path query)
  | single (c : Char) (name : List Char) (place : Authority.parse [c] = .ok name) : ReadAs [c] (.bare name)
  | bare (cs name : List Char) (some_ : cs ≠ []) (place : Authority.ahead cs = .ok (name, [])) :
      ReadAs cs (.bare name)
  | absolute (cs scheme rest name behind path : List Char) (query : Option (List Char))
      (schemed : schemeAhead cs = .ok (some (scheme, rest))) (named : name ≠ [])
      (place : Authority.ahead rest = .ok (name, behind)) (split : pathAndQuery behind = .ok (path, query)) :
      ReadAs cs (.absolute scheme name path query)

theorem split_of_map (form : List Char → Option (List Char) → Target) (cs : List Char) (target : Target)
    (read : ((pathAndQuery cs).map fun split => form split.1 split.2) = .ok target) :
    ∃ path query, pathAndQuery cs = .ok (path, query) ∧ target = form path query := by
  cases split : pathAndQuery cs with
  | error e =>
      rw [split] at read
      cases read
  | ok pair =>
      rw [split] at read
      cases read
      exact ⟨pair.1, pair.2, rfl, rfl⟩

theorem parseFull_ok (cs : List Char) (target : Target) (some_ : cs ≠ [])
    (read : parseFull cs = .ok target) : ReadAs cs target := by
  unfold parseFull at read
  split at read
  · cases read
  · split at read
    · cases read
    · rename_i name place
      cases read
      exact .bare cs name some_ place
    · cases read
  · rename_i scheme rest schemed
    split at read
    · cases read
    · cases read
    · rename_i name behind unnamed place
      obtain ⟨path, query, split, rfl⟩ := split_of_map (.absolute scheme name) behind target read
      exact .absolute cs scheme rest name behind path query schemed unnamed place split

theorem parse_ok (cs : List Char) (target : Target) (read : parse cs = .ok target) : ReadAs cs target := by
  unfold parse at read
  split at read
  · cases read
  · split at read
    · cases read
    · cases read
      exact .star
    · rename_i rest _
      obtain ⟨path, query, split, rfl⟩ := split_of_map .origin _ target read
      exact .origin rest path query split
    · rename_i c _ _ _
      cases place : Authority.parse [c] with
      | error e =>
          rw [place] at read
          cases read
      | ok name =>
          rw [place] at read
          cases read
          exact .single c name place
    · rename_i more _ _ _
      exact parseFull_ok cs target (fun nothing => more nothing) read

theorem parse_wellFormed (cs : List Char) (target : Target) (read : parse cs = .ok target) :
    WellFormed target := by
  cases parse_ok cs target read with
  | star => exact .star
  | origin rest path query split =>
      obtain ⟨taken, clean⟩ := pathAndQuery_ok _ _ _ split
      have rooted : path = '/' :: rest.takeWhile (fun c => c != '?' && c != '#') := taken
      rw [rooted] at clean ⊢
      exact .origin _ query clean
  | single c name place => exact .bare name (Authority.parse_within _ _ place)
  | bare _ name _ place => exact .bare name (Authority.ahead_ok _ _ _ place).2.2
  | absolute _ scheme rest name behind path query schemed named place split =>
      obtain ⟨-, dropped, within⟩ := Authority.ahead_ok _ _ _ place
      obtain ⟨taken, clean⟩ := pathAndQuery_ok _ _ _ split
      refine .absolute scheme name path query (schemeAhead_ok _ _ _ schemed) named within ?_ clean
      cases behind with
      | nil => exact .inl taken
      | cons c behind =>
          have ends := Text.head?_dropWhile _ _ c (by rw [← dropped]; rfl)
          simp only [Authority.endsAuthority, Bool.not_eq_false', Bool.or_eq_true, beq_iff_eq] at ends
          rcases ends with (rfl | rfl) | rfl
          · exact .inr (by rw [taken]; rfl)
          · exact .inl taken
          · exact .inl taken

/-- Path and query of the requests and of what is sent on; an authority alone stands for the root. -/
def tail (target : Target) : List Char := target.pathAndQuery?.getD ['/']

theorem isSolid_of_path (c : Char) (known : isPathChar c = true) : Url.isSolid c = true := by
  simp only [isPathChar, Bool.or_eq_true, Bool.and_eq_true, decide_eq_true_eq, beq_iff_eq] at known
  simp only [Url.isSolid, decide_eq_true_eq]
  omega

theorem isSolid_of_query (c : Char) (known : isQueryChar c = true) : Url.isSolid c = true := by
  simp only [isQueryChar, Bool.or_eq_true, Bool.and_eq_true, decide_eq_true_eq, beq_iff_eq] at known
  simp only [Url.isSolid, decide_eq_true_eq]
  omega

theorem clean_solid (path : List Char) (query : Option (List Char)) (clean : Clean path query) :
    (path ++ queryText query).all Url.isSolid = true := by
  rw [List.all_eq_true]
  intro c member
  rcases List.mem_append.mp member with front | back
  · exact isSolid_of_path c (List.all_eq_true.mp clean.path_chars c front)
  · cases query with
    | none => cases back
    | some query =>
        rcases List.mem_cons.mp back with rfl | inner
        · decide
        · exact isSolid_of_query c (List.all_eq_true.mp clean.query_chars c inner)

theorem tail_solid (target : Target) (formed : WellFormed target) :
    target.tail ≠ [] ∧ target.tail.all Url.isSolid = true := by
  cases formed with
  | star => exact ⟨by decide, by decide⟩
  | origin path query clean => exact ⟨by simp [tail, pathAndQuery?], clean_solid _ query clean⟩
  | absolute scheme name path query known named within rooted clean =>
      have solid := clean_solid path query clean
      simp only [tail, pathAndQuery?, Option.getD_some, orSlash]
      split
      · exact ⟨by decide, by decide⟩
      · rename_i more
        exact ⟨fun none_ => more (by rw [none_]; rfl), solid⟩
  | bare name within =>
      have root : (bare name).tail = ['/'] := rfl
      rw [root]
      exact ⟨by decide, by decide⟩

/-! ## Targets that can be read -/

-- The length limit counts octets, so short texts are under it whatever their characters are.
theorem size_le (cs : List Char) : Utf8.size cs ≤ 4 * cs.length := by
  have bound : ∀ total, cs.foldl (fun total c => total + c.utf8Size) total ≤
      total + 4 * cs.length := by
    induction cs with
    | nil => exact fun total => Nat.le_refl _
    | cons c cs ih =>
        intro total
        have rest := ih (total + c.utf8Size)
        have one := c.utf8Size_le_four
        simp only [List.foldl_cons, List.length_cons]
        omega
  have whole := bound 0
  simp only [Nat.zero_add] at whole
  exact whole

theorem IsScheme.chars (scheme : List Char) (known : IsScheme scheme) :
    scheme.all isSchemeChar = true ∧ scheme.length ≤ maxScheme := by
  rcases known with rfl | rfl | ⟨chars, short, -⟩
  · decide
  · decide
  · exact ⟨chars, short⟩

theorem isSolid_of_scheme (c : Char) (known : isSchemeChar c = true) : Url.isSolid c = true := by
  simp only [isSchemeChar, Bool.or_eq_true, beq_iff_eq] at known
  rcases known with (((alnum | rfl) | rfl) | rfl) | rfl
  · exact Authority.isSolid_of_within c (Authority.isWithin_of_alphanum c alnum)
  · decide
  · decide
  · decide
  · decide

theorem solid_of_scheme (cs : List Char) (known : cs.all isSchemeChar = true) : cs.all Url.isSolid = true :=
  List.all_eq_true.mpr fun c member => isSolid_of_scheme c (List.all_eq_true.mp known c member)

theorem schemeAhead_scheme (scheme rest : List Char) (known : IsScheme scheme) (more : rest ≠ []) :
    schemeAhead (scheme ++ ':' :: '/' :: '/' :: rest) = .ok (some (scheme, rest)) := by
  obtain ⟨chars, short⟩ := known.chars
  have taken : (scheme ++ ':' :: '/' :: '/' :: rest).takeWhile isSchemeChar = scheme := by
    apply Text.takeWhile_all _ _ _ (List.all_eq_true.mp chars)
    intro c first
    cases first
    decide
  have long : ¬ (scheme ++ ':' :: '/' :: '/' :: rest).length ≤ 3 := by
    have some_rest := List.length_pos_iff.mpr more
    simp only [List.length_append, List.length_cons]
    omega
  unfold schemeAhead
  simp only [taken, List.drop_left]
  rcases known with rfl | rfl | ⟨-, -, noHttp, noHttps⟩
  · rfl
  · rfl
  · have other : ¬ (Text.lower scheme = "http".toList ∨ Text.lower scheme = "https".toList) := by
      rintro (http | https)
      · exact noHttp http
      · exact noHttps https
    rw [if_neg other, if_neg long, if_neg (Nat.not_lt.mpr short)]

theorem pathAndQuery_again (path : List Char) (query : Option (List Char))
    (clean : Clean path query) : pathAndQuery (path ++ queryText query) = .ok (path, query) := by
  have plain : ∀ c ∈ path, (c != '?' && c != '#') = true := by
    intro c member
    have known := List.all_eq_true.mp clean.path_chars c member
    have other : c ≠ '?' ∧ c ≠ '#' := by
      constructor
      · rintro rfl
        cases known
      · rintro rfl
        cases known
    simp [other]
  have taken : (path ++ queryText query).takeWhile (fun c => c != '?' && c != '#') = path := by
    apply Text.takeWhile_all _ path _ plain
    intro c first
    cases query with
    | none => cases first
    | some query =>
        cases first
        rfl
  unfold pathAndQuery
  simp only [taken, clean.path_chars, if_true, List.drop_left]
  cases query with
  | none => rfl
  | some query =>
      have free : ∀ c ∈ query, (c != '#') = true := by
        intro c member
        rw [bne_iff_ne]
        rintro rfl
        cases List.all_eq_true.mp clean.query_chars '#' member
      have whole := Text.takeWhile_all (· != '#') query [] free (fun c first => by cases first)
      rw [List.append_nil] at whole
      have chars : query.all isQueryChar = true := clean.query_chars
      simp only [queryText, whole, chars, if_true]

theorem pathAndQuery_clean (path : List Char) (clean : Clean path none) :
    pathAndQuery path = .ok (path, none) := by
  simpa only [queryText, List.append_nil] using pathAndQuery_again path none clean

theorem parse_parts (scheme name rest path : List Char) (query : Option (List Char))
    (known : IsScheme scheme) (named : name ≠ [])
    (placed : Authority.ahead (name ++ rest) = .ok (name, rest))
    (split : pathAndQuery rest = .ok (path, query))
    (small : Utf8.size (scheme ++ ':' :: '/' :: '/' :: (name ++ rest)) ≤ maxLength) :
    parse (scheme ++ ':' :: '/' :: '/' :: (name ++ rest)) =
      .ok (.absolute scheme name path query) := by
  have full : parseFull (scheme ++ ':' :: '/' :: '/' :: (name ++ rest)) =
      .ok (.absolute scheme name path query) := by
    unfold parseFull
    rw [schemeAhead_scheme scheme _ known (by simp [named])]
    dsimp only
    rw [placed]
    cases name with
    | nil => exact absurd rfl named
    | cons c name =>
        dsimp only
        rw [split]
        rfl
  unfold parse
  rw [if_neg (Nat.not_lt.mpr small)]
  cases scheme with
  | nil => exact full
  | cons c scheme =>
      have letter : isSchemeChar c = true := by
        have chars := known.chars.1
        simp only [List.all_cons, Bool.and_eq_true] at chars
        exact chars.1
      split
      · rename_i shape
        cases shape
      · rename_i shape
        simp at shape
      · rename_i shape
        cases shape
        cases letter
      · rename_i shape
        simp at shape
      · exact full

theorem parse_absolute (scheme path : List Char) (known : IsScheme scheme)
    (short : path.length ≤ 8) (clean : Clean ('/' :: path) none) :
    parse (scheme ++ ':' :: '/' :: '/' :: (Url.probeName ++ '/' :: path)) =
      .ok (.absolute scheme Url.probeName ('/' :: path) none) := by
  have few := known.chars.2
  have small : Utf8.size (scheme ++ ':' :: '/' :: '/' :: (Url.probeName ++ '/' :: path)) ≤
      maxLength := by
    have bound := size_le (scheme ++ ':' :: '/' :: '/' :: (Url.probeName ++ '/' :: path))
    have name : Url.probeName.length = 5 := by decide
    simp only [List.length_append, List.length_cons, name, maxScheme] at bound few
    simp only [maxLength]
    omega
  have placed : Authority.ahead (Url.probeName ++ '/' :: path) =
      .ok (Url.probeName, '/' :: path) := by
    have taken : (Url.probeName ++ '/' :: path).takeWhile (!Authority.endsAuthority ·) =
        Url.probeName := by
      apply Text.takeWhile_all
      · exact List.all_eq_true.mp (by decide)
      · intro c first
        cases first
        decide
    unfold Authority.ahead
    simp only [taken, List.drop_left]
    rfl
  exact parse_parts scheme Url.probeName _ _ none known (by decide) placed
    (pathAndQuery_clean _ clean) small

end Target

end AccessGate.Http
