import AccessGate.Proofs.Url.Reading

/-!
Texts that stand ahead of two slashes and a host, and have a scheme of their own already. Whatever
they are, the host behind them is no longer read as the host: it is dropped, or it is part of the
path.
-/

namespace AccessGate.Url

/-- A host that every kind of URL can have, with a path behind it. -/
def probeName : List Char := "[::1]".toList

def probe : List Char := probeName ++ ['/']

theorem probeName_ordinary : Path.Ordinary probeName where
  unescaped := by decide
  whole := Text.each_of_all probeName _ (by decide)
  no_double_dot := by decide
  no_single_dot := by decide
  no_drive := by decide
  not_empty := by decide

/-- A way to read what stands behind a fixed beginning that does not read it as a host: it never
succeeds, or always with the same path, or with one that holds more than the path behind the host. -/
inductive Misreads (read : List Char → Except UrlError (List Char)) : Prop where
  | never (fails : ∀ rest, ∃ e, read rest = .error e)
  | constant (path : List Char) (reads : ∀ rest, read rest = .ok path)
  | longer (reads : ∀ rest, ∃ path, read rest = .ok path)
      (probed : ∃ path, read probe = .ok path ∧ path ≠ ['/'])

-- Either the beginning has a mark that ends the path, or the probe is the last directory of the path.
theorem misreads_of_path (f : List Char → List Char) (start : List Char)
    (named : ∀ cs, ∃ front, f (cs ++ "//".toList ++ probe) = front ++ '/' :: probe) :
    Misreads fun rest => .ok (f (splitPath (start ++ "//".toList ++ rest)).1) := by
  cases unmarked : start.all (!endsPath ·) with
  | true =>
      apply Misreads.longer (fun rest => ⟨_, rfl⟩)
      have whole : (splitPath (start ++ "//".toList ++ probe)).1 = start ++ "//".toList ++ probe := by
        have all : ∀ c ∈ start ++ "//".toList ++ probe, (!endsPath c) = true := by
          intro c member
          rcases List.mem_append.mp member with front | back
          · rcases List.mem_append.mp front with inStart | slash
            · exact List.all_eq_true.mp unmarked c inStart
            · have slashes : "//".toList.all (!endsPath ·) = true := by decide
              exact List.all_eq_true.mp slashes c slash
          · have plain : probe.all (!endsPath ·) = true := by decide
            exact List.all_eq_true.mp plain c back
        have taken := Text.takeWhile_all _ _ [] all (fun c first => by cases first)
        rw [List.append_nil] at taken
        exact taken
      obtain ⟨front, ends⟩ := named start
      refine ⟨_, rfl, ?_⟩
      rw [whole, ends]
      intro root
      have size := congrArg List.length root
      simp [probe, probeName] at size
  | false =>
      obtain ⟨front, c, rest, shape, inner, mark⟩ := Text.cut_at_failure _ start unmarked
      apply Misreads.constant (f front)
      intro more
      have taken : (splitPath (start ++ "//".toList ++ more)).1 = front := by
        have shown : start ++ "//".toList ++ more = front ++ c :: (rest ++ "//".toList ++ more) := by
          rw [shape]
          simp
        rw [shown]
        apply Text.takeWhile_all _ _ _ inner
        intro d first
        cases first
        exact mark
      rw [taken]

theorem segments_named (isFile special : Bool) (cs : List Char) :
    ∃ front, Path.segments isFile special (cs ++ '/' :: probe) = front ++ [probeName, []] :=
  Path.segments_directory isFile special cs probeName probeName_ordinary

theorem hostedPath_named (isFile special : Bool) (cs : List Char) :
    ∃ front, hostedPath isFile special (cs ++ "//".toList ++ probe) = front ++ [probeName, []] := by
  cases cs with
  | nil => exact segments_named isFile special []
  | cons c cs =>
      have shape : cs ++ "//".toList ++ probe = (cs ++ ['/']) ++ '/' :: probe := by simp
      simp only [List.cons_append, hostedPath]
      split
      · rw [shape]
        exact segments_named isFile special _
      · rw [shape]
        exact segments_named isFile special (c :: (cs ++ ['/']))

theorem render_named (front : List (List Char)) :
    Path.render (front ++ [probeName, []]) = Path.render front ++ '/' :: probe :=
  Path.render_directory front probeName

theorem dropWhile_keeps (p : Char → Bool) (cs : List Char) (c : Char) (stop : p c = false) :
    ∃ front, ∀ rest, (cs ++ c :: rest).dropWhile p = front ++ c :: rest := by
  induction cs with
  | nil => exact ⟨[], fun rest => by simp [stop]⟩
  | cons d cs ih =>
      simp only [List.cons_append, List.dropWhile_cons]
      split
      · exact ih
      · exact ⟨d :: cs, fun rest => rfl⟩

-- The colon belongs to the authority at most, so what ends the authority is known without the rest.
theorem authority_at_start (special : Bool) (start : List Char) :
    ∃ name front, Inside special name ∧
      (∀ rest, start ++ "://".toList ++ rest = name ++ (front ++ "//".toList ++ rest)) ∧
      ∀ rest, Closes special (front ++ "//".toList ++ rest) := by
  let whole := start ++ "://".toList
  have closes := closes_dropWhile special whole
  obtain ⟨front, stopped⟩ : ∃ front,
      whole.dropWhile (!endsAuthority special ·) = front ++ "//".toList := by
    have shape : whole = (start ++ [':']) ++ '/' :: ['/'] := by simp [whole]
    have slash : (!endsAuthority special '/') = false := by cases special <;> decide
    obtain ⟨front, kept⟩ := dropWhile_keeps (!endsAuthority special ·) (start ++ [':']) '/' slash
    exact ⟨front, by rw [shape, kept]; rfl⟩
  rw [stopped] at closes
  refine ⟨whole.takeWhile (!endsAuthority special ·), front, inside_takeWhile special whole, ?_, ?_⟩
  · intro rest
    rw [← List.append_assoc, ← stopped, List.takeWhile_append_dropWhile]
  · intro rest c first
    apply closes c
    cases front with
    | nil => exact first
    | cons d front => exact first

theorem hosted_misreads (special : Bool) (start : List Char) :
    Misreads fun rest => hostedPathOf special (start ++ "://".toList ++ rest) := by
  obtain ⟨authority, front, inside, shape, closes⟩ := authority_at_start special start
  have ahead : ∀ rest, placeAhead special (start ++ "://".toList ++ rest) =
      (placeIn special false authority).map fun found =>
        (found.1, found.2 ++ (front ++ "//".toList ++ rest)) := by
    intro rest
    have open_ : (front ++ "//".toList ++ rest).isEmpty = false := by
      cases front with
      | nil => rfl
      | cons d front => rfl
    rw [shape, placeAhead_append special authority _ inside (closes rest), open_]
  unfold hostedPathOf
  simp only [ahead]
  cases placeIn special false authority with
  | error e => exact .never fun rest => ⟨e, rfl⟩
  | ok pair =>
      obtain ⟨place, e⟩ := pair
      have text := misreads_of_path (fun cs => Path.render (hostedPath false special cs))
        (e ++ front) (by
          intro cs
          obtain ⟨front, named⟩ := hostedPath_named false special cs
          exact ⟨Path.render front, by rw [named, render_named]⟩)
      simpa [Except.map] using text

/-! ## Schemes without structure -/

theorem encode_append (escaped : Char → Bool) (a b : List Char) :
    Percent.encode escaped (a ++ b) = Percent.encode escaped a ++ Percent.encode escaped b := by
  simp [Percent.encode]

theorem parsePlain_text (scheme cs : List Char) (c : Char) (other : c ≠ '/') :
    (parsePlain scheme (c :: cs)).map path =
      .ok (Percent.encode Host.isControl (splitPath (c :: cs)).1) := by
  unfold parsePlain
  split
  · rename_i same
    cases same
    exact absurd rfl other
  · rename_i same
    cases same
    exact absurd rfl other
  · rfl

theorem parsePlain_rooted (scheme cs : List Char) (c : Char) (other : c ≠ '/') :
    (parsePlain scheme ('/' :: c :: cs)).map path =
      .ok (Path.render (Path.segments false false (splitPath (c :: cs)).1)) := by
  unfold parsePlain
  split
  · rename_i same
    cases same
    exact absurd rfl other
  · rename_i same
    cases same
    rfl
  · rename_i unrooted
    exact absurd rfl (unrooted _)

theorem text_misreads (start : List Char) :
    Misreads fun rest =>
      .ok (Percent.encode Host.isControl (splitPath (start ++ "//".toList ++ rest)).1) := by
  apply misreads_of_path
  intro cs
  refine ⟨Percent.encode Host.isControl cs ++ ['/'], ?_⟩
  have plain : Percent.encode Host.isControl ("//".toList ++ probe) = "//".toList ++ probe := by
    decide
  rw [List.append_assoc, encode_append, plain]
  simp

theorem rooted_misreads (start : List Char) :
    Misreads fun rest =>
      .ok (Path.render (Path.segments false false (splitPath (start ++ "//".toList ++ rest)).1)) := by
  apply misreads_of_path fun cs => Path.render (Path.segments false false cs)
  intro cs
  have shape : cs ++ "//".toList ++ probe = (cs ++ ['/']) ++ '/' :: probe := by simp
  obtain ⟨front, named⟩ := segments_named false false (cs ++ ['/'])
  exact ⟨Path.render front, by rw [shape, named, render_named]⟩

-- The first two characters behind the scheme decide: a path that is a text, a path of segments, or a
-- host of its own. The colon of the second scheme stands in for a character that is missing.
theorem plain_misreads (scheme start : List Char) (plain : isSpecial scheme = false) :
    Misreads fun rest => (parsePlain scheme (start ++ "://".toList ++ rest)).map path := by
  have colon : ':' ≠ '/' := by decide
  rcases start with _ | ⟨c, start⟩
  · have reads : ∀ rest, (parsePlain scheme ([] ++ "://".toList ++ rest)).map path = _ :=
      fun rest => parsePlain_text scheme _ ':' colon
    simp only [reads]
    exact text_misreads [':']
  · by_cases slash : c = '/'
    · subst slash
      rcases start with _ | ⟨d, start⟩
      · have reads : ∀ rest, (parsePlain scheme (['/'] ++ "://".toList ++ rest)).map path = _ :=
          fun rest => parsePlain_rooted scheme _ ':' colon
        simp only [reads]
        exact rooted_misreads [':']
      · by_cases second : d = '/'
        · subst second
          have reads : ∀ rest,
              (parsePlain scheme ('/' :: '/' :: start ++ "://".toList ++ rest)).map path =
                hostedPathOf false (start ++ "://".toList ++ rest) := by
            intro rest
            rw [← plain]
            exact parseHosted_path scheme _
          simp only [reads]
          exact hosted_misreads false start
        · have reads : ∀ rest,
              (parsePlain scheme ('/' :: d :: start ++ "://".toList ++ rest)).map path = _ :=
            fun rest => parsePlain_rooted scheme _ d second
          simp only [reads]
          have rooted := rooted_misreads (d :: start ++ [':'])
          simpa using rooted
    · have reads : ∀ rest,
          (parsePlain scheme (c :: start ++ "://".toList ++ rest)).map path = _ :=
        fun rest => parsePlain_text scheme _ c slash
      simp only [reads]
      have text := text_misreads (c :: start ++ [':'])
      simpa using text

/-! ## Files -/

def filePath (segments : List (List Char)) : List Char := Path.render (Path.dropEmpty segments)

theorem fileUrl_path (host : Host) (segments : List (List Char)) (rest : List Char) :
    (fileUrl host segments rest).path = filePath segments := rfl

theorem filePath_named (front : List (List Char)) :
    ∃ text, filePath (front ++ [probeName, []]) = text ++ '/' :: probe := by
  obtain ⟨rest, dropped⟩ := Path.dropEmpty_directory front probeName probeName_ordinary.not_empty
  exact ⟨Path.render rest, by rw [filePath, dropped, render_named]⟩

theorem file_misreads (f : List Char → List (List Char)) (start : List Char)
    (named : ∀ cs, ∃ front, f (cs ++ "//".toList ++ probe) = front ++ [probeName, []]) :
    Misreads fun rest => .ok (filePath (f (splitPath (start ++ "//".toList ++ rest)).1)) := by
  apply misreads_of_path fun cs => filePath (f cs)
  intro cs
  obtain ⟨front, ends⟩ := named cs
  obtain ⟨text, shown⟩ := filePath_named front
  exact ⟨text, by rw [ends, shown]⟩

theorem fileSegments_named (cs : List Char) :
    ∃ front, Path.segments true true (cs ++ "//".toList ++ probe) = front ++ [probeName, []] := by
  have shape : cs ++ "//".toList ++ probe = (cs ++ ['/']) ++ '/' :: probe := by simp
  rw [shape]
  exact segments_named true true _

theorem fileTail_named (cs : List Char) :
    ∃ front, Path.segments true true (cs ++ "//".toList ++ probe).tail =
      front ++ [probeName, []] := by
  cases cs with
  | nil => exact segments_named true true []
  | cons c cs => exact fileSegments_named cs

theorem fileHost_misreads (start : List Char) :
    Misreads fun rest => (parseFileHost (start ++ "://".toList ++ rest)).map path := by
  obtain ⟨name, front, inside, shape, closes⟩ := authority_at_start true start
  have taken : ∀ rest, (name ++ (front ++ "//".toList ++ rest)).takeWhile (!endsAuthority true ·) =
      name := fun rest => takeWhile_inside true _ _ inside (closes rest)
  unfold parseFileHost
  simp only [shape, taken, List.drop_left]
  by_cases drive : Path.isDrive name
  · simp only [if_pos drive, List.isEmpty_nil, if_true]
    have driven := file_misreads (Path.segments true true) (name ++ front) fileSegments_named
    simpa [Except.map, fileUrl_path] using driven
  · simp only [if_neg drive]
    by_cases unnamed : name.isEmpty
    · simp only [if_pos unnamed]
      exact file_misreads (Path.segments true true) front fileSegments_named
    · simp only [if_neg unnamed]
      cases Host.parse name with
      | error e => exact .never fun rest => ⟨e, rfl⟩
      | ok host =>
          by_cases own : host = .domain "localhost".toList
          · simp only [if_pos own]
            exact file_misreads (Path.segments true true) front fileSegments_named
          · simp only [if_neg own]
            exact file_misreads (hostedPath true true) front (hostedPath_named true true)

theorem parseFile_rooted (a b : Char) (cs : List Char) (first : Path.isSeparator true a = true)
    (second : Path.isSeparator true b = false) :
    (parseFile (a :: b :: cs)).map path =
      .ok (filePath (Path.segments true true (splitPath (a :: b :: cs)).1.tail)) := by
  simp only [parseFile, first, second, Bool.false_eq_true, and_false, if_false, if_true]
  rfl

theorem parseFile_bare (a b : Char) (cs : List Char) (first : Path.isSeparator true a = false) :
    (parseFile (a :: b :: cs)).map path =
      .ok (filePath (Path.segments true true (splitPath (a :: b :: cs)).1)) := by
  simp only [parseFile, first, Bool.false_eq_true, false_and, if_false]
  rfl

-- Again the first two characters decide, here by which of them are separators.
theorem parseFile_misreads (start : List Char) :
    Misreads fun rest => (parseFile (start ++ "://".toList ++ rest)).map path := by
  have colon : Path.isSeparator true ':' = false := by decide
  have rooted := fun start : List Char =>
    file_misreads (fun cs => Path.segments true true cs.tail) start fileTail_named
  have bare := fun start : List Char =>
    file_misreads (Path.segments true true) start fileSegments_named
  rcases start with _ | ⟨a, start⟩
  · have reads : ∀ rest, (parseFile ([] ++ "://".toList ++ rest)).map path = _ :=
      fun rest => parseFile_bare ':' '/' _ colon
    simp only [reads]
    exact bare [':']
  · cases first : Path.isSeparator true a with
    | false =>
        have text := bare (a :: start ++ [':'])
        rcases start with _ | ⟨b, start⟩
        · have reads : ∀ rest, (parseFile ([a] ++ "://".toList ++ rest)).map path = _ :=
            fun rest => parseFile_bare a ':' _ first
          simp only [reads]
          exact text
        · have reads : ∀ rest, (parseFile (a :: b :: start ++ "://".toList ++ rest)).map path = _ :=
            fun rest => parseFile_bare a b _ first
          simp only [reads]
          simpa using text
    | true =>
        have text := rooted (a :: start ++ [':'])
        rcases start with _ | ⟨b, start⟩
        · have reads : ∀ rest, (parseFile ([a] ++ "://".toList ++ rest)).map path = _ :=
            fun rest => parseFile_rooted a ':' _ first colon
          simp only [reads]
          exact text
        · cases second : Path.isSeparator true b with
          | false =>
              have reads : ∀ rest,
                  (parseFile (a :: b :: start ++ "://".toList ++ rest)).map path = _ :=
                fun rest => parseFile_rooted a b _ first second
              simp only [reads]
              simpa using text
          | true =>
              have reads : ∀ rest, parseFile (a :: b :: start ++ "://".toList ++ rest) =
                  parseFileHost (start ++ "://".toList ++ rest) := by
                intro rest
                simp only [List.cons_append, parseFile, first, second, and_self, if_true]
              simp only [reads]
              exact fileHost_misreads start

/-! ## All of them -/

theorem parseSolid_misreads (text scheme behind : List Char)
    (split : splitScheme text = some (scheme, behind)) (ended : text.all isSchemeChar = false) :
    Misreads fun rest => (parseSolid (text ++ "://".toList ++ rest)).map path := by
  have schemes : ∀ rest, splitScheme (text ++ "://".toList ++ rest) =
      some (scheme, behind ++ "://".toList ++ rest) := by
    intro rest
    rw [List.append_assoc, splitScheme_append text _ ended, split, List.append_assoc]
    rfl
  unfold parseSolid
  simp only [schemes]
  by_cases file : isFile scheme
  · simp only [if_pos file]
    exact parseFile_misreads behind
  · simp only [if_neg file]
    by_cases special : isSpecial scheme
    · simp only [if_pos special, parseHosted_path]
      obtain ⟨front, kept⟩ := dropWhile_keeps (Path.isSeparator true) behind ':' (by decide)
      have dropped : ∀ rest, (behind ++ "://".toList ++ rest).dropWhile (Path.isSeparator true) =
          front ++ "://".toList ++ rest := by
        intro rest
        have whole := kept ("//".toList ++ rest)
        simpa using whole
      simp only [dropped]
      exact hosted_misreads _ front
    · simp only [if_neg special]
      exact plain_misreads scheme behind (Bool.eq_false_iff.mpr special)

/-- How a text that stands ahead of two slashes is read: as a scheme, as something with a scheme of
its own, or not at all. -/
theorem parseSolid_cases (text : List Char) :
    (∃ reading, reading? text = some reading) ∨
      (reading? text = none ∧
        Misreads fun rest => (parseSolid (text ++ "://".toList ++ rest)).map path) := by
  cases read : reading? text with
  | some reading => exact .inl ⟨reading, rfl⟩
  | none =>
      refine .inr ⟨rfl, ?_⟩
      cases ended : text.all isSchemeChar with
      | false =>
          cases split : splitScheme text with
          | some pair =>
              obtain ⟨scheme, behind⟩ := pair
              exact parseSolid_misreads text scheme behind split ended
          | none =>
              apply Misreads.never
              intro rest
              refine ⟨.relative, ?_⟩
              unfold parseSolid
              rw [List.append_assoc, splitScheme_append text _ ended, split]
              rfl
      | true =>
          apply Misreads.never
          intro rest
          refine ⟨.relative, ?_⟩
          have unstarted := unstarted_of_unread text rest ended read
          unfold parseSolid
          rw [List.append_assoc, splitScheme_unstarted text _ unstarted]
          rfl

end AccessGate.Url
