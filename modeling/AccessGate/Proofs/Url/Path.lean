import AccessGate.Url.Path

/-!
Paths of URLs, piece by piece. A separator cuts a text into two that are cut on their own, and a walk
over segments only carries on what came before.
-/

namespace AccessGate.Url.Path

theorem pieces_ne_nil (special : Bool) (cs : List Char) : pieces special cs ≠ [] := by
  cases cs with
  | nil => simp [pieces]
  | cons c cs =>
      simp only [pieces]
      split
      · simp
      · split
        · simp
        · simp

theorem pieces_append (special : Bool) (cs : List Char) (mark : Char) (rest : List Char)
    (separates : isSeparator special mark = true) :
    pieces special (cs ++ mark :: rest) = pieces special cs ++ pieces special rest := by
  induction cs with
  | nil => simp [pieces, separates]
  | cons c cs ih =>
      simp only [List.cons_append, pieces, ih]
      split
      · rfl
      · cases cut : pieces special cs with
        | nil => exact absurd cut (pieces_ne_nil special cs)
        | cons first others => rfl

theorem pieces_single (special : Bool) (cs : List Char)
    (whole : ∀ c ∈ cs, isSeparator special c = false) : pieces special cs = [cs] := by
  induction cs with
  | nil => rfl
  | cons c cs ih =>
      have rest := ih fun d member => whole d (List.mem_cons_of_mem _ member)
      simp [pieces, whole c List.mem_cons_self, rest]

theorem walk_append (isFile : Bool) (first rest : List (List Char)) (done : List (List Char))
    (more : rest ≠ []) :
    walk isFile done (first ++ rest) = walk isFile (first.foldl (push isFile) done) rest := by
  induction first generalizing done with
  | nil => rfl
  | cons segment first ih =>
      obtain ⟨next, others, shape⟩ : ∃ next others, first ++ rest = next :: others := by
        cases whole : first ++ rest with
        | nil => exact absurd (List.append_eq_nil_iff.mp whole).2 more
        | cons next others => exact ⟨next, others, rfl⟩
      have step : walk isFile done (segment :: (first ++ rest)) =
          walk isFile (push isFile done segment) (first ++ rest) := by
        rw [shape]
        rfl
      rw [List.cons_append, step, ih]
      rfl

theorem render_append (front rest : List (List Char)) :
    render (front ++ rest) = render front ++ render rest := by
  simp [render]

theorem isDoubleDot_nil : isDoubleDot [] = false := by decide

theorem isSingleDot_nil : isSingleDot [] = false := by decide

/-- A segment that a walk puts down as it is. -/
structure Settled (segment : List Char) : Prop where
  unescaped : Percent.encode escapedInPath segment = segment
  whole : ∀ c ∈ segment, isSeparator true c = false
  no_double_dot : isDoubleDot segment = false
  no_single_dot : isSingleDot segment = false

/-- A segment that the paths of one kind of URLs keep as it is. -/
structure SettledIn (special : Bool) (segment : List Char) : Prop where
  unescaped : Percent.encode escapedInPath segment = segment
  whole : ∀ c ∈ segment, isSeparator special c = false
  no_double_dot : isDoubleDot segment = false
  no_single_dot : isSingleDot segment = false

/-- A directory name that stands at the end of a path as it is. -/
structure Ordinary (segment : List Char) : Prop extends Settled segment where
  no_drive : normalDrive segment = segment
  not_empty : segment ≠ []

theorem Settled.within {segment : List Char} (settled : Settled segment) (special : Bool) :
    SettledIn special segment := by
  refine ⟨settled.unescaped, ?_, settled.no_double_dot, settled.no_single_dot⟩
  intro c member
  have whole := settled.whole c member
  cases special with
  | true => exact whole
  | false =>
      simp only [isSeparator, Bool.or_eq_false_iff] at whole
      simp [isSeparator, whole.1]

theorem SettledIn.settled {segment : List Char} (settled : SettledIn true segment) : Settled segment :=
  ⟨settled.unescaped, settled.whole, settled.no_double_dot, settled.no_single_dot⟩

theorem SettledIn.pieces {special : Bool} {segment : List Char} (settled : SettledIn special segment) :
    Path.pieces special segment = [segment] :=
  pieces_single special segment settled.whole

theorem separates_slash (special : Bool) : isSeparator special '/' = true := rfl

-- A walk that comes to such a directory keeps it and what is behind it, in all kinds of URLs.
theorem segments_directory (isFile special : Bool) (cs name : List Char) (ordinary : Ordinary name) :
    ∃ front, segments isFile special (cs ++ '/' :: (name ++ ['/'])) = front ++ [name, []] := by
  have cut : pieces special (cs ++ '/' :: (name ++ ['/'])) = pieces special cs ++ [name, []] := by
    rw [pieces_append special cs '/' _ rfl, pieces_append special name '/' [] rfl,
      (ordinary.within special).pieces]
    rfl
  obtain ⟨given, same⟩ : ∃ given, segments isFile special (cs ++ '/' :: (name ++ ['/'])) =
      (walk isFile [] (given ++ [name, []])).reverse := by
    unfold segments
    rw [cut, List.map_append]
    simp only [List.map_cons, List.map_nil, ordinary.unescaped]
    cases isFile with
    | false => exact ⟨(pieces special cs).map (Percent.encode escapedInPath), rfl⟩
    | true =>
        cases encoded : (pieces special cs).map (Percent.encode escapedInPath) with
        | nil => exact absurd (List.map_eq_nil_iff.mp encoded) (pieces_ne_nil special cs)
        | cons first rest =>
            refine ⟨splitDrive first ++ rest, ?_⟩
            simp only [List.cons_append, List.append_assoc]
            rfl
  have pushed : push isFile (given.foldl (push isFile) []) name =
      name :: given.foldl (push isFile) [] := by
    simp [push, ordinary.no_double_dot, ordinary.no_single_dot, ordinary.no_drive]
  refine ⟨(given.foldl (push isFile) []).reverse, ?_⟩
  rw [same, walk_append isFile given _ [] (by simp)]
  simp only [walk, pushed]
  have closed : ∀ done, close isFile (name :: done) [] = [] :: name :: done := by
    intro done
    simp [close, isDoubleDot_nil, isSingleDot_nil]
  simp [closed]

theorem dropEmpty_directory (front : List (List Char)) (name : List Char) (named : name ≠ []) :
    ∃ rest, dropEmpty (front ++ [name, []]) = rest ++ [name, []] := by
  induction front with
  | nil =>
      refine ⟨[], ?_⟩
      cases name with
      | nil => exact absurd rfl named
      | cons c name => rfl
  | cons segment front ih =>
      obtain ⟨rest, shorter⟩ := ih
      cases segment with
      | cons c segment => exact ⟨(c :: segment) :: front, rfl⟩
      | nil =>
          refine ⟨rest, ?_⟩
          rw [← shorter]
          cases front with
          | nil => rfl
          | cons next front => rfl

theorem render_directory (front : List (List Char)) (name : List Char) :
    render (front ++ [name, []]) = render front ++ '/' :: (name ++ ['/']) := by
  rw [render_append]
  simp [render]

end AccessGate.Url.Path
