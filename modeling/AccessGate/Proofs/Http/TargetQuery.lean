import AccessGate.Proofs.Http.OriginForm
import AccessGate.Proofs.Http.WebTarget
import AccessGate.Proofs.Url.Query

/-!
The query of a target and of what is made of it. It is what stands behind the first mark of the text; behind
a fragment's mark nothing counts.
-/

namespace AccessGate.Http.Target

/-! ## The query in the text -/

theorem unqueried_of_within (name : List Char) (within : name.all Authority.isWithin = true) :
    ∀ c ∈ name, Url.endsPath c = false := by
  intro c member
  have outside := Authority.not_ends_of_within c (List.all_eq_true.mp within c member)
  simp only [Url.endsAuthority, Bool.or_eq_false_iff] at outside
  exact outside.1.2

theorem unqueried_of_scheme (scheme : List Char) (known : scheme.all isSchemeChar = true) :
    ∀ c ∈ scheme ++ "://".toList, Url.endsPath c = false := by
  intro c member
  rcases List.mem_append.mp member with inside | behind
  · exact Url.unended_of_all isSchemeChar (by decide) scheme known c inside
  · exact Text.each_of_all "://".toList (Url.endsPath · = false) (by decide) c behind

theorem unqueried_of_path (path : List Char) (known : path.all isPathChar = true) :
    ∀ c ∈ path, Url.endsPath c = false :=
  Url.unended_of_all isPathChar (by decide) path known

/-- The forms of targets that a path and a query are put into. -/
inductive Queried : (List Char → Option (List Char) → Target) → Prop where
  | origin : Queried .origin
  | absolute (scheme name : List Char) : Queried (.absolute scheme name)

namespace Queried

variable {form : List Char → Option (List Char) → Target}

theorem query (queried : Queried form) (path : List Char) (query : Option (List Char)) :
    (form path query).query? = query := by
  cases queried with
  | origin => rfl
  | absolute scheme name => rfl

theorem front (queried : Queried form) (path : List Char) (one other : Option (List Char)) :
    (form path one).scheme? = (form path other).scheme? ∧
      (form path one).authority? = (form path other).authority? := by
  cases queried with
  | origin => exact ⟨rfl, rfl⟩
  | absolute scheme name => exact ⟨rfl, rfl⟩

theorem tail (queried : Queried form) (path query : List Char) :
    (form path (some query)).tail = path ++ '?' :: query := by
  cases queried with
  | origin => rfl
  | absolute scheme name => simp [Target.tail, pathAndQuery?, orSlash, queryText]

theorem unmarked (queried : Queried form) (path query : List Char)
    (formed : (form path (some query)).WellFormed) : '#' ∉ path := by
  have free : '#' ∉ path ++ queryText (some query) := by
    cases queried with
    | origin =>
        cases formed with
        | origin path found clean => exact clean_unmarked _ _ clean
    | absolute scheme name =>
        cases formed with
        | absolute _ _ path found known named within rooted clean => exact clean_unmarked _ _ clean
  exact fun mark => free (List.mem_append_left _ mark)

theorem render (queried : Queried form) (path query : List Char)
    (formed : (form path (some query)).WellFormed) :
    ∃ front, (∀ c ∈ front, Url.endsPath c = false) ∧
      ∀ query, (form path (some query)).render = front ++ '?' :: query := by
  cases queried with
  | origin =>
      cases formed with
      | origin path found clean =>
          exact ⟨'/' :: path, unqueried_of_path _ clean.path_chars, fun query => rfl⟩
  | absolute scheme name =>
      cases formed with
      | absolute _ _ path found known named within rooted clean =>
          refine ⟨scheme ++ "://".toList ++ name ++ orSlash path, ?_, fun query => by
            simp [Target.render, queryText]⟩
          have slashed : ∀ c ∈ orSlash path, Url.endsPath c = false := by
            unfold orSlash
            split
            · simp [Url.endsPath]
            · exact unqueried_of_path path clean.path_chars
          intro c member
          rcases List.mem_append.mp member with front | inside
          · rcases List.mem_append.mp front with first | second
            · exact unqueried_of_scheme scheme known.chars.1 c first
            · exact unqueried_of_within name within c second
          · exact slashed c inside

end Queried

theorem query_chars (target : Target) (formed : target.WellFormed) (query : List Char)
    (queried : target.query? = some query) : query.all Url.isSolid = true ∧ '#' ∉ query := by
  have chars : ∀ path, Clean path (some query) → query.all Url.isSolid = true ∧ '#' ∉ query := by
    intro path clean
    have listed := List.all_eq_true.mp clean.query_chars
    constructor
    · exact List.all_eq_true.mpr fun c member => isSolid_of_query c (listed c member)
    · intro mark
      cases listed '#' mark
  cases formed with
  | star => cases queried
  | bare name within => cases queried
  | origin path found clean =>
      cases queried
      exact chars _ clean
  | absolute scheme name path found known named within rooted clean =>
      cases queried
      exact chars _ clean

/-! ## The text in front of a mark -/

section

variable {mark : Char}

theorem open_of_ends (ends : Url.endsPath mark = true) :
    isSchemeChar mark = false ∧ (!Authority.endsAuthority mark) = false ∧ mark ≠ ':' ∧ mark ≠ '/' := by
  simp only [Url.endsPath, Bool.or_eq_true, beq_iff_eq] at ends
  rcases ends with rfl | rfl
  · decide
  · decide

-- The colon and the two slashes behind a scheme stand in front of the mark.
theorem schemeAhead_mark (ends : Url.endsPath mark = true) (front : List Char) :
    (∃ e, ∀ rest, schemeAhead (front ++ mark :: rest) = .error e) ∨
      (∀ rest, schemeAhead (front ++ mark :: rest) = .ok none) ∨
      ∃ scheme behind, (∀ c ∈ behind, c ∈ front) ∧ ∀ rest, schemeAhead (front ++ mark :: rest) =
        .ok (some (scheme, behind ++ mark :: rest)) := by
  obtain ⟨stop, -, colon, slash⟩ := open_of_ends ends
  unfold schemeAhead
  simp only [Text.takeWhile_mark isSchemeChar mark stop, Text.drop_mark]
  by_cases schemed : ∃ behind, front.dropWhile isSchemeChar = ':' :: '/' :: '/' :: behind
  · obtain ⟨behind, shape⟩ := schemed
    have inside : ∀ c ∈ behind, c ∈ front := by
      intro c member
      apply (List.dropWhile_suffix isSchemeChar).subset
      rw [shape]
      exact List.mem_cons_of_mem _ (List.mem_cons_of_mem _ (List.mem_cons_of_mem _ member))
    have long : ∀ rest, ¬ (front ++ mark :: rest).length ≤ 3 := by
      intro rest
      have parts := congrArg List.length (List.takeWhile_append_dropWhile (p := isSchemeChar) (l := front))
      rw [shape] at parts
      simp only [List.length_append, List.length_cons] at parts ⊢
      omega
    simp only [shape, List.cons_append, long, if_false]
    split
    · exact .inr (.inr ⟨_, behind, inside, fun rest => rfl⟩)
    · split
      · exact .inl ⟨.schemeTooLong, fun rest => rfl⟩
      · exact .inr (.inr ⟨_, behind, inside, fun rest => rfl⟩)
  · refine .inr (.inl fun rest => ?_)
    split
    · rename_i behind shape
      exfalso
      rcases found : front.dropWhile isSchemeChar with _ | ⟨a, _ | ⟨b, _ | ⟨c, more⟩⟩⟩
      · rw [found] at shape
        exact colon (List.cons.inj shape).1
      · rw [found] at shape
        exact slash (List.cons.inj (List.cons.inj shape).2).1
      · rw [found] at shape
        exact slash (List.cons.inj (List.cons.inj (List.cons.inj shape).2).2).1
      · rw [found] at shape
        cases shape
        exact schemed ⟨more, found⟩
    · rfl

theorem ahead_mark (ends : Url.endsPath mark = true) (front : List Char) :
    (∃ e, ∀ rest, Authority.ahead (front ++ mark :: rest) = .error e) ∨
      ∃ name behind, (∀ c ∈ behind, c ∈ front) ∧ ∀ rest, Authority.ahead (front ++ mark :: rest) =
        .ok (name, behind ++ mark :: rest) := by
  have stop := (open_of_ends ends).2.1
  unfold Authority.ahead
  simp only [Text.takeWhile_mark (!Authority.endsAuthority ·) mark stop, Text.drop_mark]
  cases Authority.scan .start (front.takeWhile (!Authority.endsAuthority ·)) with
  | error e => exact .inl ⟨e, fun rest => rfl⟩
  | ok s =>
      by_cases sound : s.isSound = true
      · simp only [sound, if_true]
        exact .inr ⟨_, _, fun c member => (List.dropWhile_suffix _).subset member, fun rest => rfl⟩
      · simp only [sound, if_false, Bool.false_eq_true]
        exact .inl ⟨.badAuthority, fun rest => rfl⟩

def Placed (mark : Char) (front : List Char) (read : List Char → Except TargetError Target) : Prop :=
  (∀ rest target, read (front ++ mark :: rest) ≠ .ok target) ∨
    ∃ form behind, Queried form ∧ (∀ c ∈ behind, c ∈ front) ∧
      ∀ rest target, read (front ++ mark :: rest) = .ok target → ∃ path query,
        pathAndQuery (behind ++ mark :: rest) = .ok (path, query) ∧ target = form path query

theorem parseFull_placed (ends : Url.endsPath mark = true) (front : List Char) :
    Placed mark front parseFull := by
  unfold Placed parseFull
  rcases schemeAhead_mark ends front with ⟨e, fails⟩ | unschemed | ⟨scheme, behind, early, schemed⟩
  · left
    intro rest target
    rw [fails]
    exact nofun
  · left
    intro rest target
    simp only [unschemed]
    rcases ahead_mark ends front with ⟨e, fails⟩ | ⟨name, behind, -, named⟩
    · rw [fails]
      exact nofun
    · -- The mark at least is left behind the authority.
      rw [named]
      split
      · exact nofun
      · rename_i whole
        simp at whole
      · exact nofun
  · simp only [schemed]
    rcases ahead_mark ends behind with ⟨e, fails⟩ | ⟨name, behind, late, named⟩
    · left
      intro rest target
      rw [fails]
      exact nofun
    · simp only [named]
      cases name with
      | nil =>
          left
          intro rest target
          exact nofun
      | cons c name =>
          refine .inr ⟨_, behind, .absolute scheme (c :: name), ?_, ?_⟩
          · exact fun c member => early c (late c member)
          · exact fun rest target read => split_of_map (.absolute scheme (c :: name)) _ target read

theorem parseFull_of_parse (cs : List Char) (target : Target) (unslashed : cs.head? ≠ some '/')
    (long : ∀ c, cs ≠ [c]) (read : parse cs = .ok target) : parseFull cs = .ok target := by
  unfold parse at read
  split at read
  · cases read
  · split at read
    · cases read
    · exact absurd rfl (long '*')
    · exact absurd rfl unslashed
    · rename_i c _ _ _
      exact absurd rfl (long c)
    · exact read

theorem parse_placed (ends : Url.endsPath mark = true) (front : List Char) : Placed mark front parse := by
  have slash := (open_of_ends ends).2.2.2
  by_cases rooted : front.head? = some '/'
  · obtain ⟨behind, rfl⟩ := List.head?_eq_some_iff.mp rooted
    refine .inr ⟨.origin, '/' :: behind, .origin, fun c member => member, fun rest target read => ?_⟩
    unfold parse at read
    split at read
    · cases read
    · exact split_of_map .origin _ target read
  · have full : ∀ rest target, parse (front ++ mark :: rest) = .ok target →
        parseFull (front ++ mark :: rest) = .ok target := by
      intro rest target read
      refine parseFull_of_parse _ target ?_ ?_ read
      · cases front with
        | nil => exact fun same => slash (Option.some.inj same)
        | cons c front => exact rooted
      · intro c single
        have alone : front = [] ∧ rest = [] := by
          cases front with
          | nil => exact ⟨rfl, (List.cons.inj single).2⟩
          | cons d front => simp at single
        obtain ⟨rfl, rfl⟩ := alone
        simp only [Url.endsPath, Bool.or_eq_true, beq_iff_eq] at ends
        rcases ends with rfl | rfl
        · cases read
        · cases read
    rcases parseFull_placed ends front with never | ⟨form, behind, queried, inside, always⟩
    · exact .inl fun rest target read => never rest target (full rest target read)
    · exact .inr ⟨form, behind, queried, inside,
        fun rest target read => always rest target (full rest target read)⟩

/-! ## The mark of the query and that of the fragment -/

theorem pathAndQuery_fragment (front rest : List Char) :
    pathAndQuery (front ++ '#' :: rest) = pathAndQuery front := by
  unfold pathAndQuery
  simp only [Text.takeWhile_mark (fun c => c != '?' && c != '#') '#' (by decide), Text.drop_mark,
    Text.drop_takeWhile]
  cases front.dropWhile fun c => c != '?' && c != '#' with
  | nil => rfl
  | cons c behind =>
      by_cases query : c = '?'
      · subst query
        simp only [List.cons_append, Text.takeWhile_mark (· != '#') '#' (by decide)]
      · simp [query]

theorem pathAndQuery_unended (front rest path : List Char) (query : Option (List Char))
    (unended : ∀ c ∈ front, Url.endsPath c = false) (unmarked : '#' ∉ rest)
    (read : pathAndQuery (front ++ '?' :: rest) = .ok (path, query)) :
    path = front ∧ query = some rest := by
  have plain : ∀ c ∈ front, (c != '?' && c != '#') = true := by
    intro c member
    simpa [Url.endsPath, bne] using unended c member
  obtain ⟨behind, rfl, split⟩ := pathAndQuery_behind front _ path query plain read
  have free : '#' ∉ '?' :: rest := by simpa using unmarked
  obtain ⟨text, taken⟩ := pathAndQuery_text _ behind query free split
  cases taken
  cases query with
  | none => cases text
  | some query =>
      cases text
      exact ⟨List.append_nil front, rfl⟩

theorem unended_of_free (front : List Char) (unqueried : '?' ∉ front) (unmarked : '#' ∉ front) :
    ∀ c ∈ front, Url.endsPath c = false := by
  intro c member
  simp only [Url.endsPath, Bool.or_eq_false_iff, beq_eq_false_iff_ne]
  exact ⟨fun same => unqueried (same ▸ member), fun same => unmarked (same ▸ member)⟩

/-- What stands in front of a query decides how the target begins, and with what its query. -/
theorem parse_query (front : List Char) (free : '#' ∉ front) :
    (∀ rest target, parse (front ++ '?' :: rest) ≠ .ok target) ∨
      ∃ form path more, Queried form ∧ ∀ rest target, '#' ∉ rest →
        parse (front ++ '?' :: rest) = .ok target → target = form path (some (more ++ rest)) := by
  rcases parse_placed (by decide : Url.endsPath '?' = true) front with
    never | ⟨form, behind, queried, inside, always⟩
  · exact .inl never
  · have unmarked : '#' ∉ behind := fun mark => free (inside '#' mark)
    right
    -- A query may have begun within the front already.
    by_cases early : '?' ∈ behind
    · obtain ⟨path, more, rfl, unqueried⟩ := List.eq_append_cons_of_mem early
      simp only [List.mem_append, List.mem_cons, not_or] at unmarked
      refine ⟨form, path, more ++ ['?'], queried, fun rest target clean read => ?_⟩
      obtain ⟨found, query, split, rfl⟩ := always rest target read
      rw [List.append_assoc, List.cons_append] at split
      obtain ⟨rfl, rfl⟩ := pathAndQuery_unended path _ found query
        (unended_of_free path unqueried unmarked.1) (by simp [unmarked.2.2, clean]) split
      simp
    · refine ⟨form, behind, [], queried, fun rest target clean read => ?_⟩
      obtain ⟨found, query, split, rfl⟩ := always rest target read
      obtain ⟨rfl, rfl⟩ := pathAndQuery_unended behind _ found query
        (unended_of_free behind early unmarked) clean split
      rfl

theorem pathAndQuery_shape (cs path : List Char) (query : Option (List Char))
    (read : pathAndQuery cs = .ok (path, query)) :
    path = cs.takeWhile (fun c => c != '?' && c != '#') ∧
      (query.isSome = true ↔ (cs.dropWhile fun c => c != '?' && c != '#').head? = some '?') := by
  unfold pathAndQuery at read
  dsimp only at read
  rw [Text.drop_takeWhile] at read
  split at read
  · split at read
    · rename_i rest shape
      split at read
      · cases read
        exact ⟨rfl, fun _ => by rw [shape]; rfl, fun _ => rfl⟩
      · cases read
    · rename_i unqueried
      cases read
      refine ⟨rfl, nofun, fun first => ?_⟩
      obtain ⟨rest, shape⟩ := List.head?_eq_some_iff.mp first
      exact absurd shape (unqueried rest)
  · cases read

-- Whether the mark begins the query is decided in front of it.
theorem pathAndQuery_parting (front a b path path' : List Char) (query query' : Option (List Char))
    (first : pathAndQuery (front ++ '?' :: a) = .ok (path, query))
    (second : pathAndQuery (front ++ '?' :: b) = .ok (path', query')) :
    path = path' ∧ query.isSome = query'.isSome := by
  obtain ⟨rfl, asked⟩ := pathAndQuery_shape _ path query first
  obtain ⟨rfl, asked'⟩ := pathAndQuery_shape _ path' query' second
  have stop : ('?' != '?' && '?' != '#') = false := by decide
  rw [Text.takeWhile_mark _ '?' stop, Text.takeWhile_mark _ '?' stop]
  refine ⟨rfl, Bool.eq_iff_iff.mpr ?_⟩
  rw [asked, asked', Text.dropWhile_mark _ '?' stop, Text.dropWhile_mark _ '?' stop]
  cases front.dropWhile fun c => c != '?' && c != '#' with
  | nil => rfl
  | cons c behind => rfl

theorem parse_parting (front a b : List Char) (one other : Target)
    (first : parse (front ++ '?' :: a) = .ok one) (second : parse (front ++ '?' :: b) = .ok other) :
    one = other ∨ ∃ form path query query', Queried form ∧ one = form path (some query) ∧
      other = form path (some query') := by
  rcases parse_placed (by decide : Url.endsPath '?' = true) front with
    never | ⟨form, behind, queried, -, always⟩
  · exact absurd first (never a one)
  · obtain ⟨path, query, split, rfl⟩ := always a one first
    obtain ⟨path', query', split', rfl⟩ := always b other second
    obtain ⟨rfl, asked⟩ := pathAndQuery_parting behind a b path path' query query' split split'
    cases query with
    | none =>
        cases query' with
        | none => exact .inl rfl
        | some text => cases asked
    | some text =>
        cases query' with
        | none => cases asked
        | some text' => exact .inr ⟨form, path, text, text', queried, rfl, rfl⟩

theorem parse_fragment (front a b : List Char) (first second : Target)
    (one : parse (front ++ '#' :: a) = .ok first) (other : parse (front ++ '#' :: b) = .ok second) :
    first = second := by
  rcases parse_placed (by decide : Url.endsPath '#' = true) front with
    never | ⟨form, behind, queried, -, always⟩
  · exact absurd one (never a first)
  · obtain ⟨path, query, split, rfl⟩ := always a first one
    obtain ⟨path', query', split', rfl⟩ := always b second other
    rw [pathAndQuery_fragment] at split split'
    cases split.symm.trans split'
    rfl

end

end AccessGate.Http.Target
