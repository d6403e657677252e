import AccessGate.Proofs.Url.LetterCase
import AccessGate.Proofs.Url.Prefix

/-!
Paths of files. A drive in the first place is written with a colon and is never taken back, so a path that
was read behind no host need not be the same behind one.
-/

namespace AccessGate.Url.Path

/-! ## Drives -/

theorem drive_shape (segment : List Char) (drive : isDrive segment = true) :
    ∃ letter mark, segment = [letter, mark] ∧ letter.isAlpha = true ∧ (mark = ':' ∨ mark = '|') := by
  unfold isDrive at drive
  split at drive
  · rename_i letter mark
    simp only [Bool.and_eq_true, Bool.or_eq_true, beq_iff_eq] at drive
    exact ⟨letter, mark, rfl, drive.1, drive.2⟩
  · cases drive

theorem settled_drive (letter : Char) (alpha : letter.isAlpha = true) :
    SettledIn true [letter, ':'] ∧ isDrive [letter, ':'] = true := by
  have table : ∀ n : Fin 128, (Char.ofNat n).isAlpha = true →
      Percent.encode escapedInPath [Char.ofNat n, ':'] = [Char.ofNat n, ':'] ∧
        (isSeparator true (Char.ofNat n) = false ∧ isSeparator true ':' = false) ∧
        isDoubleDot [Char.ofNat n, ':'] = false ∧ isSingleDot [Char.ofNat n, ':'] = false := by
    decide +kernel
  have found := table ⟨letter.toNat, Text.ascii_of_letter letter alpha⟩
  simp only [Char.ofNat_toNat] at found
  obtain ⟨unescaped, whole, double, single⟩ := found alpha
  exact ⟨⟨unescaped, by simpa using whole, double, single⟩, by simp [isDrive, alpha]⟩

theorem shorten_drive (done : List (List Char)) (drive : List Char) (isDrive_ : isDrive drive = true) :
    ∃ kept, shorten (done ++ [drive]) = kept ++ [drive] := by
  cases done with
  | nil => exact ⟨[], by simp [shorten, isDrive_]⟩
  | cons last done =>
      rw [List.cons_append, shorten]
      split
      · exact ⟨last :: done, rfl⟩
      · exact ⟨done, rfl⟩

theorem push_drive {isFile : Bool} (done : List (List Char)) (drive segment : List Char)
    (isDrive_ : isDrive drive = true) :
    ∃ kept, push isFile (done ++ [drive]) segment = kept ++ [drive] := by
  have some_ : (done ++ [drive]).isEmpty = false := by simp
  unfold push
  rw [some_, Bool.and_false]
  split
  · exact shorten_drive done drive isDrive_
  · split
    · exact ⟨done, rfl⟩
    · exact ⟨segment :: done, rfl⟩

theorem close_drive {isFile : Bool} (done : List (List Char)) (drive segment : List Char)
    (isDrive_ : isDrive drive = true) :
    ∃ kept, close isFile (done ++ [drive]) segment = kept ++ [drive] := by
  have some_ : (done ++ [drive]).isEmpty = false := by simp
  unfold close
  rw [some_, Bool.and_false]
  split
  · obtain ⟨kept, same⟩ := shorten_drive done drive isDrive_
    exact ⟨[] :: kept, by rw [same]; rfl⟩
  · split
    · exact ⟨[] :: done, rfl⟩
    · exact ⟨segment :: done, rfl⟩

theorem walk_drive {isFile : Bool} (given done : List (List Char)) (drive : List Char)
    (isDrive_ : isDrive drive = true) :
    ∃ kept, walk isFile (done ++ [drive]) given = kept ++ [drive] := by
  induction given generalizing done with
  | nil => exact ⟨done, rfl⟩
  | cons segment rest ih =>
      cases rest with
      | nil => exact close_drive done drive segment isDrive_
      | cons next rest =>
          obtain ⟨kept, same⟩ := push_drive done drive segment isDrive_
          have step : walk isFile (done ++ [drive]) (segment :: next :: rest) =
              walk isFile (push isFile (done ++ [drive]) segment) (next :: rest) := rfl
          rw [step, same]
          exact ih kept

theorem walk_from_drive (letter : Char) (alpha : letter.isAlpha = true) (given : List (List Char)) :
    ∃ rest, (walk true [[letter, ':']] given).reverse = [letter, ':'] :: rest := by
  obtain ⟨kept, same⟩ : ∃ kept, walk true [[letter, ':']] given = kept ++ [[letter, ':']] :=
    walk_drive given [] _ (settled_drive letter alpha).2
  exact ⟨kept.reverse, by rw [same, List.reverse_append]; rfl⟩

/-! ## Segments of files -/

def fileSteps : List (List Char) → List (List Char)
  | [] => []
  | first :: rest => splitDrive first ++ rest

theorem segments_file (cs : List Char) :
    segments true true cs = (walk true [] (fileSteps (steps true cs))).reverse := by
  unfold segments
  dsimp only
  change _ = (walk true [] (fileSteps ((pieces true cs).map (Percent.encode escapedInPath)))).reverse
  cases (pieces true cs).map (Percent.encode escapedInPath) with
  | nil => rfl
  | cons first rest => rfl

theorem unescaped_chars (segment : List Char) (unescaped : Percent.encode escapedInPath segment = segment) :
    ∀ c ∈ segment, c.toNat < 0x80 ∧ escapedInPath c = false := by
  have table : ∀ c ∈ Percent.signs, c.toNat < 0x80 ∧ escapedInPath c = false :=
    Text.each_of_all Percent.signs _ (by decide)
  intro c member
  rw [← unescaped] at member
  rcases Percent.mem_encode _ segment c member with ⟨-, plain⟩ | sign
  · exact plain
  · exact table c sign

theorem splitDrive_cases (segment : List Char) : splitDrive segment = [segment] ∨
    ∃ letter c rest, segment = letter :: ':' :: c :: rest ∧ letter.isAlpha = true ∧
      splitDrive segment = [[letter, ':'], c :: rest] := by
  unfold splitDrive
  split
  · split
    · rename_i letter c rest alpha
      exact .inr ⟨letter, c, rest, rfl, alpha, rfl⟩
    · exact .inl rfl
  · exact .inl rfl

theorem fileSteps_read (cs : List Char) : ∀ step ∈ fileSteps (steps true cs),
    Percent.encode escapedInPath step = step ∧ ∀ c ∈ step, isSeparator true c = false := by
  have read := steps_read true cs
  cases shape : steps true cs with
  | nil => exact absurd shape (steps_ne_nil true cs)
  | cons first rest =>
      rw [shape] at read
      intro step member
      rcases List.mem_append.mp member with front | later
      · rcases splitDrive_cases first with whole | ⟨letter, c, behind, split, alpha, parts⟩
        · rw [whole] at front
          rw [List.mem_singleton.mp front]
          exact read first List.mem_cons_self
        · rw [parts, List.mem_cons, List.mem_singleton] at front
          obtain ⟨unescaped, free⟩ := read first List.mem_cons_self
          rcases front with rfl | rfl
          · exact ⟨(settled_drive letter alpha).1.unescaped, (settled_drive letter alpha).1.whole⟩
          · have inside : ∀ d ∈ c :: behind, d ∈ first := by
              intro d member
              rw [split]
              exact List.mem_cons_of_mem _ (List.mem_cons_of_mem _ member)
            exact ⟨Percent.encode_plain _ _ fun d member =>
              unescaped_chars first unescaped d (inside d member), fun d member => free d (inside d member)⟩
      · exact read step (List.mem_cons_of_mem _ later)

theorem normalDrive_cases (segment : List Char) : normalDrive segment = segment ∨
    ∃ letter mark, segment = [letter, mark] ∧ letter.isAlpha = true ∧ normalDrive segment = [letter, ':'] := by
  unfold normalDrive
  split
  · split
    · rename_i letter mark drive
      obtain ⟨_, _, shape, alpha, -⟩ := drive_shape _ drive
      cases shape
      exact .inr ⟨letter, mark, rfl, alpha, rfl⟩
    · exact .inl rfl
  · exact .inl rfl

theorem segments_file_settled (cs : List Char) :
    segments true true cs ≠ [] ∧ ∀ segment ∈ segments true true cs, SettledIn true segment := by
  have some_ : fileSteps (steps true cs) ≠ [] := by
    cases shape : steps true cs with
    | nil => exact absurd shape (steps_ne_nil true cs)
    | cons first rest =>
        rcases splitDrive_cases first with whole | ⟨_, _, _, -, -, parts⟩
        · simp [fileSteps, whole]
        · simp [fileSteps, parts]
  rw [segments_file]
  refine ⟨fun nothing => walk_ne_nil [] _ some_ (List.reverse_eq_nil_iff.mp nothing), ?_⟩
  intro segment member
  rw [List.mem_reverse] at member
  rcases mem_walk [] _ segment member with before | rfl | ⟨next, met, put⟩
  · cases before
  · exact settled_nil.within true
  · obtain ⟨unescaped, whole⟩ := fileSteps_read cs next met
    have settled : SettledIn true next := ⟨unescaped, whole, put.no_double_dot, put.no_single_dot⟩
    rcases put.same with rfl | ⟨-, rfl⟩
    · exact settled
    · rcases normalDrive_cases next with same | ⟨letter, mark, -, alpha, same⟩
      · rwa [same]
      · rw [same]
        exact (settled_drive letter alpha).1

/-! ## Paths as reading leaves them -/

theorem dropEmpty_subset (list : List (List Char)) : dropEmpty list ⊆ list := by
  induction list with
  | nil => exact List.Subset.refl _
  | cons first rest ih =>
      unfold dropEmpty
      split
      · rename_i next rest same
        cases same
        exact fun segment member => List.mem_cons_of_mem _ (ih member)
      · exact List.Subset.refl _

theorem dropEmpty_ne_nil (list : List (List Char)) (some_ : list ≠ []) : dropEmpty list ≠ [] := by
  induction list with
  | nil => exact absurd rfl some_
  | cons first rest ih =>
      unfold dropEmpty
      split
      · rename_i next rest same
        cases same
        exact ih (List.cons_ne_nil _ _)
      · exact some_

theorem dropEmpty_twice (list : List (List Char)) : dropEmpty (dropEmpty list) = dropEmpty list := by
  induction list with
  | nil => rfl
  | cons first rest ih =>
      cases first with
      | cons c first => rfl
      | nil =>
          cases rest with
          | nil => rfl
          | cons next rest => exact ih

/-- The path of a file as reading leaves it. -/
structure FileList (list : List (List Char)) : Prop where
  some_ : list ≠ []
  settled : ∀ segment ∈ list, SettledIn true segment
  dropped : dropEmpty list = list

theorem fileList_dropEmpty (list : List (List Char)) (some_ : list ≠ [])
    (settled : ∀ segment ∈ list, SettledIn true segment) : FileList (dropEmpty list) :=
  ⟨dropEmpty_ne_nil list some_, fun segment member => settled segment (dropEmpty_subset list member),
    dropEmpty_twice list⟩

/-! ## Reading them again -/

def keepsFirst : List (List Char) → Bool
  | first :: _ => splitDrive first == [first] && normalDrive first == first
  | [] => true

namespace FileList

variable {list : List (List Char)}

theorem steps_eq (path : FileList list) : steps true (render list) = [] :: list := by
  cases list with
  | nil => exact absurd rfl path.some_
  | cons first more =>
      have shape : render (first :: more) = [] ++ '/' :: (first ++ render more) := rfl
      rw [shape, steps_append, steps_render first more path.settled]
      rfl

theorem behind_slash (path : FileList list) :
    dropEmpty (segments true true (render list)) = list ∧
      onDrive (segments true true (render list)) = false := by
  have walked : segments true true (render list) = [] :: list := by
    have put : push true [] [] = [[]] := rfl
    have step : walk true [] ([] :: list) = walk true [[]] list := by
      cases list with
      | nil => exact absurd rfl path.some_
      | cons first more => rw [← put]; rfl
    rw [segments_file, path.steps_eq]
    change (walk true [] ([] :: list)).reverse = _
    rw [step, walk_settled list [[]] (fun _ => List.cons_ne_nil _ _) path.settled]
    simp
  rw [walked]
  refine ⟨?_, rfl⟩
  cases list with
  | nil => exact absurd rfl path.some_
  | cons first more => exact path.dropped

theorem behind_host (path : FileList list) :
    segments true true (render list).tail = (walk true [] (fileSteps list)).reverse := by
  cases list with
  | nil => exact absurd rfl path.some_
  | cons first more =>
      have shape : (render (first :: more)).tail = first ++ render more := rfl
      rw [shape, segments_file, steps_render first more path.settled]

theorem behind_host_kept (path : FileList list) (kept : keepsFirst list = true) :
    segments true true (render list).tail = list := by
  rw [path.behind_host]
  cases list with
  | nil => exact absurd rfl path.some_
  | cons first more =>
      simp only [keepsFirst, Bool.and_eq_true, beq_iff_eq] at kept
      have settled := path.settled first List.mem_cons_self
      have others := fun segment member => path.settled segment (List.mem_cons_of_mem _ member)
      rw [fileSteps, kept.1]
      cases more with
      | nil => simp [walk, close, settled.no_double_dot, settled.no_single_dot, kept.2]
      | cons next more =>
          have put : push true [] first = [first] := by
            simp [push, settled.no_double_dot, settled.no_single_dot, kept.2]
          change (walk true (push true [] first) (next :: more)).reverse = _
          rw [put, walk_settled _ _ (fun _ => List.cons_ne_nil _ _) others]
          simp

theorem behind_host_drive (path : FileList list) (unkept : keepsFirst list = false) :
    ∃ letter rest, segments true true (render list).tail = [letter, ':'] :: rest ∧
      render ([letter, ':'] :: rest) ≠ render list := by
  rw [path.behind_host]
  cases list with
  | nil => cases unkept
  | cons first more =>
      have settled := path.settled first List.mem_cons_self
      rcases splitDrive_cases first with whole | ⟨letter, c, behind, rfl, alpha, parts⟩
      · have changed : normalDrive first ≠ first := by
          intro same
          simp [keepsFirst, whole, same] at unkept
        obtain same | ⟨letter, mark, rfl, alpha, named⟩ := normalDrive_cases first
        · exact absurd same changed
        · have other : mark ≠ ':' := by
            rintro rfl
            exact changed named
          have free := And.intro settled.no_double_dot settled.no_single_dot
          have begins : ∃ rest, (walk true [] (fileSteps ([letter, mark] :: more))).reverse =
              [letter, ':'] :: rest := by
            rw [fileSteps, whole]
            cases more with
            | nil => exact ⟨[], by simp [walk, close, free, named]⟩
            | cons next more =>
                have put : push true [] [letter, mark] = [[letter, ':']] := by simp [push, free, named]
                change ∃ rest, (walk true (push true [] [letter, mark]) (next :: more)).reverse = _
                rw [put]
                exact walk_from_drive letter alpha (next :: more)
          obtain ⟨rest, same⟩ := begins
          refine ⟨letter, rest, same, fun equal => ?_⟩
          simp [render] at equal
          exact other equal.1.symm
      · have drive := (settled_drive letter alpha).1
        have put : push true [] [letter, ':'] = [[letter, ':']] := by
          simp [push, drive.no_double_dot, drive.no_single_dot, normalDrive]
        obtain ⟨rest, same⟩ := walk_from_drive letter alpha ((c :: behind) :: more)
        refine ⟨letter, rest, ?_, fun equal => ?_⟩
        · rw [fileSteps, parts]
          change (walk true (push true [] [letter, ':']) ((c :: behind) :: more)).reverse = _
          rw [put, same]
        · have slash : c = '/' := by
            cases rest with
            | nil => simp [render] at equal
            | cons next rest =>
                simp [render] at equal
                exact equal.1.symm
          have other := settled.whole c (by simp)
          rw [slash] at other
          cases other

end FileList

/-! ## First segments -/

/-- Whether a segment is a drive or goes on behind one. -/
def startsDrive (segment : List Char) : Bool := isDrive segment || splitDrive segment != [segment]

theorem keepsFirst_undriven (first : List Char) (rest : List (List Char)) :
    (keepsFirst (first :: rest) = true ∧ onDrive (first :: rest) = false) ↔ startsDrive first = false := by
  have same : isDrive first = false → normalDrive first = first := by
    intro other
    unfold normalDrive
    split
    · rw [if_neg (Bool.eq_false_iff.mp other)]
    · rfl
  simp only [keepsFirst, onDrive, startsDrive, Bool.and_eq_true, beq_iff_eq, Bool.or_eq_false_iff,
    bne_eq_false_iff_eq]
  constructor
  · rintro ⟨⟨whole, -⟩, other⟩
    exact ⟨other, whole⟩
  · rintro ⟨other, whole⟩
    exact ⟨⟨whole, same other⟩, other⟩

theorem keepsFirst_drive (first : List Char) (rest : List (List Char)) :
    (keepsFirst (first :: rest) = true ∧ onDrive (first :: rest) = true) ↔ isNormalDrive first = true := by
  simp only [keepsFirst, onDrive, Bool.and_eq_true, beq_iff_eq]
  constructor
  · rintro ⟨⟨-, named⟩, drive⟩
    obtain ⟨letter, mark, rfl, alpha, -⟩ := drive_shape first drive
    rw [normalDrive, if_pos drive] at named
    cases named
    exact alpha
  · intro normal
    unfold isNormalDrive at normal
    split at normal
    · rename_i letter
      have drive := (settled_drive letter normal).2
      exact ⟨⟨rfl, by simp [normalDrive]⟩, drive⟩
    · cases normal

def Named (done : List (List Char)) : Prop := ∀ segment, done.getLast? = some segment → normalDrive segment = segment

theorem normalDrive_twice (segment : List Char) : normalDrive (normalDrive segment) = normalDrive segment := by
  rcases normalDrive_cases segment with same | ⟨letter, mark, -, -, same⟩
  · rw [same, same]
  · rw [same]
    simp [normalDrive]

theorem named_shorten (done : List (List Char)) (named : Named done) : Named (shorten done) := by
  unfold shorten
  split
  · exact named
  · split
    · exact named
    · rename_i last rest _
      intro segment found
      apply named
      cases rest with
      | nil => cases found
      | cons next rest => rwa [List.getLast?_cons_cons]

theorem named_cons (done : List (List Char)) (segment : List Char) (named : Named done)
    (first : done = [] → normalDrive segment = segment) : Named (segment :: done) := by
  intro last found
  cases done with
  | nil =>
      cases found
      exact first rfl
  | cons next done =>
      rw [List.getLast?_cons_cons] at found
      exact named last found

theorem named_put (done : List (List Char)) (segment : List Char) (named : Named done) :
    Named (if true && done.isEmpty then normalDrive segment :: done else segment :: done) := by
  split
  · exact named_cons done _ named fun _ => normalDrive_twice segment
  · rename_i some_
    exact named_cons done _ named fun none_ => absurd (by rw [none_]; rfl) some_

theorem named_push (done : List (List Char)) (segment : List Char) (named : Named done) :
    Named (push true done segment) := by
  unfold push
  split
  · exact named_shorten done named
  · split
    · exact named
    · exact named_put done segment named

theorem named_close (done : List (List Char)) (segment : List Char) (named : Named done) :
    Named (close true done segment) := by
  unfold close
  split
  · exact named_cons _ [] (named_shorten done named) fun _ => rfl
  · split
    · exact named_cons done [] named fun _ => rfl
    · exact named_put done segment named

theorem named_walk (given done : List (List Char)) (named : Named done) : Named (walk true done given) := by
  induction given generalizing done with
  | nil => exact named
  | cons segment rest ih =>
      cases rest with
      | nil => exact named_close done segment named
      | cons next rest => exact ih _ (named_push done segment named)

theorem segments_drive (cs : List Char) (drive : onDrive (segments true true cs) = true) :
    dropEmpty (segments true true cs) = segments true true cs ∧
      keepsFirst (segments true true cs) = true := by
  have named : Named (walk true [] (fileSteps (steps true cs))) :=
    named_walk _ [] fun segment found => by cases found
  rw [segments_file] at drive ⊢
  generalize walk true [] (fileSteps (steps true cs)) = done at named drive
  cases shape : done.reverse with
  | nil =>
      rw [shape] at drive
      cases drive
  | cons first rest =>
      rw [shape] at drive
      obtain ⟨letter, mark, rfl, -, -⟩ := drive_shape first drive
      have kept := named [letter, mark] (by rw [← List.head?_reverse, shape]; rfl)
      refine ⟨rfl, ?_⟩
      simp only [keepsFirst, kept, Bool.and_eq_true, beq_iff_eq]
      exact ⟨by simp [splitDrive], trivial⟩

end AccessGate.Url.Path
