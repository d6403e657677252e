import Mathlib.Data.List.Induction
import Mathlib.Logic.Function.Iterate
import AccessGate.Proofs.Percent
import AccessGate.Proofs.Text
import AccessGate.Proofs.Url.Path
import AccessGate.Url.Parser

/-!
Paths behind a prefix. Dot segments of the path behind can take back segments of the prefix, and only
those that go beyond what the path itself has put down do.
-/

namespace AccessGate.Url.Path

/-! ## Segments that were read -/

theorem not_separator_of_sign (special : Bool) (c : Char) (sign : c ∈ Percent.signs) :
    isSeparator special c = false := by
  have table : ∀ c ∈ Percent.signs, isSeparator true c = false ∧ isSeparator false c = false :=
    Text.each_of_all Percent.signs _ (by decide)
  cases special with
  | true => exact (table c sign).1
  | false => exact (table c sign).2

-- By induction on the text: a character goes into the first of the pieces that follow.
theorem pieces_whole (special : Bool) (cs : List Char) :
    ∀ piece ∈ pieces special cs, ∀ c ∈ piece, isSeparator special c = false := by
  induction cs with
  | nil => simp [pieces]
  | cons c cs ih =>
      simp only [pieces]
      split
      · intro piece member
        rcases List.mem_cons.mp member with rfl | later
        · simp
        · exact ih piece later
      · rename_i inner
        cases cut : pieces special cs with
        | nil => exact absurd cut (pieces_ne_nil special cs)
        | cons first others =>
            rw [cut] at ih
            intro piece member d inside
            rcases List.mem_cons.mp member with rfl | later
            · rcases List.mem_cons.mp inside with rfl | behind
              · exact Bool.eq_false_iff.mpr inner
              · exact ih first List.mem_cons_self d behind
            · exact ih piece (List.mem_cons_of_mem _ later) d inside

/-- The pieces of a text as a walk meets them. -/
def steps (special : Bool) (cs : List Char) : List (List Char) :=
  (pieces special cs).map (Percent.encode escapedInPath)

theorem segments_web (special : Bool) (cs : List Char) :
    segments false special cs = (walk false [] (steps special cs)).reverse := rfl

theorem steps_ne_nil (special : Bool) (cs : List Char) : steps special cs ≠ [] := by
  simp [steps, pieces_ne_nil]

theorem steps_read (special : Bool) (cs : List Char) : ∀ step ∈ steps special cs,
    Percent.encode escapedInPath step = step ∧ ∀ c ∈ step, isSeparator special c = false := by
  intro step member
  obtain ⟨piece, inside, rfl⟩ := List.mem_map.mp member
  constructor
  · exact Percent.encode_encode escapedInPath (Text.each_of_all Percent.signs _ (by decide)) piece
  · intro c coded
    rcases Percent.mem_encode _ piece c coded with ⟨kept, -⟩ | sign
    · exact pieces_whole special cs piece inside c kept
    · exact not_separator_of_sign special c sign

theorem shorten_subset (done : List (List Char)) : shorten done ⊆ done := by
  intro segment member
  unfold shorten at member
  split at member
  · exact member
  · split at member
    · exact member
    · exact List.mem_cons_of_mem _ member

/-- What a walk puts down for a segment that it meets: itself, or the drive that a file's path begins
with. -/
structure Put (isFile : Bool) (next segment : List Char) : Prop where
  same : segment = next ∨ isFile = true ∧ segment = normalDrive next
  no_double_dot : isDoubleDot next = false
  no_single_dot : isSingleDot next = false

theorem Put.eq {next segment : List Char} (put : Put false next segment) : segment = next :=
  put.same.resolve_right fun other => by cases other.1

theorem mem_push {isFile : Bool} (done : List (List Char)) (next segment : List Char)
    (member : segment ∈ push isFile done next) : segment ∈ done ∨ Put isFile next segment := by
  unfold push at member
  split at member
  · exact .inl (shorten_subset done member)
  · split at member
    · exact .inl member
    · rename_i double single
      have free := And.intro (Bool.eq_false_iff.mpr double) (Bool.eq_false_iff.mpr single)
      split at member
      · rename_i first
        rcases List.mem_cons.mp member with rfl | before
        · exact .inr ⟨.inr ⟨(Bool.and_eq_true_iff.mp first).1, rfl⟩, free.1, free.2⟩
        · exact .inl before
      · rcases List.mem_cons.mp member with rfl | before
        · exact .inr ⟨.inl rfl, free.1, free.2⟩
        · exact .inl before

theorem mem_close {isFile : Bool} (done : List (List Char)) (last segment : List Char)
    (member : segment ∈ close isFile done last) :
    segment ∈ done ∨ segment = [] ∨ Put isFile last segment := by
  unfold close at member
  split at member
  · rcases List.mem_cons.mp member with rfl | before
    · exact .inr (.inl rfl)
    · exact .inl (shorten_subset done before)
  · split at member
    · rcases List.mem_cons.mp member with rfl | before
      · exact .inr (.inl rfl)
      · exact .inl before
    · rename_i double single
      have put : segment ∈ push isFile done last := by
        unfold push
        rw [if_neg double, if_neg single]
        exact member
      exact (mem_push done last segment put).imp_right .inr

-- What a walk leaves was there before, or it is empty behind a last segment of dots, or it was put
-- down for one that was met.
theorem mem_walk {isFile : Bool} (done given : List (List Char)) (segment : List Char)
    (member : segment ∈ walk isFile done given) :
    segment ∈ done ∨ segment = [] ∨ ∃ next ∈ given, Put isFile next segment := by
  induction given generalizing done with
  | nil => exact .inl member
  | cons next rest ih =>
      cases rest with
      | nil =>
          rcases mem_close done next segment member with before | empty | put
          · exact .inl before
          · exact .inr (.inl empty)
          · exact .inr (.inr ⟨next, List.mem_cons_self, put⟩)
      | cons after rest =>
          rcases ih _ member with before | empty | ⟨later, met, put⟩
          · rcases mem_push done next segment before with kept | put
            · exact .inl kept
            · exact .inr (.inr ⟨next, List.mem_cons_self, put⟩)
          · exact .inr (.inl empty)
          · exact .inr (.inr ⟨later, List.mem_cons_of_mem _ met, put⟩)

theorem walk_ne_nil {isFile : Bool} (done given : List (List Char)) (some_ : given ≠ []) :
    walk isFile done given ≠ [] := by
  induction given generalizing done with
  | nil => exact absurd rfl some_
  | cons step rest ih =>
      cases rest with
      | nil =>
          simp only [walk, close]
          split
          · simp
          · split
            · simp
            · split
              · simp
              · simp
      | cons next rest => exact ih (push isFile done step) (by simp)

theorem settled_nil : Settled [] where
  unescaped := rfl
  whole := by simp
  no_double_dot := isDoubleDot_nil
  no_single_dot := isSingleDot_nil

theorem segments_settledIn (special : Bool) (cs : List Char) :
    ∀ segment ∈ segments false special cs, SettledIn special segment := by
  intro segment member
  rw [segments_web, List.mem_reverse] at member
  rcases mem_walk [] _ segment member with before | rfl | ⟨next, met, put⟩
  · cases before
  · exact settled_nil.within special
  · obtain ⟨unescaped, whole⟩ := steps_read special cs next met
    rw [put.eq]
    exact ⟨unescaped, whole, put.no_double_dot, put.no_single_dot⟩

/-! ## Settled paths -/

-- Only the first segment of a file's path may be changed.
theorem push_settled {isFile special : Bool} (done : List (List Char)) (segment : List Char)
    (behind : isFile = true → done ≠ []) (settled : SettledIn special segment) :
    push isFile done segment = segment :: done := by
  have later : (isFile && done.isEmpty) = false := by
    cases isFile with
    | false => rfl
    | true => simpa using behind rfl
  simp [push, settled.no_double_dot, settled.no_single_dot, later]

theorem walk_settled {isFile special : Bool} (given done : List (List Char))
    (behind : isFile = true → done ≠ []) (settled : ∀ segment ∈ given, SettledIn special segment) :
    walk isFile done given = given.reverse ++ done := by
  induction given generalizing done with
  | nil => rfl
  | cons segment rest ih =>
      have pushed := push_settled done segment behind (settled segment List.mem_cons_self)
      have others := fun next member => settled next (List.mem_cons_of_mem _ member)
      cases rest with
      | nil =>
          have first := settled segment List.mem_cons_self
          have closed : close isFile done segment = push isFile done segment := by
            simp [close, push, first.no_double_dot, first.no_single_dot]
          rw [walk, closed, pushed]
          rfl
      | cons next rest =>
          rw [walk, pushed, ih _ (fun _ => List.cons_ne_nil _ _) others]
          · simp
          · simp

theorem foldl_push_settled (given done : List (List Char))
    (settled : ∀ segment ∈ given, Settled segment) :
    given.foldl (push false) done = given.reverse ++ done := by
  induction given generalizing done with
  | nil => rfl
  | cons segment rest ih =>
      have first := settled segment List.mem_cons_self
      have behind := fun next member => settled next (List.mem_cons_of_mem _ member)
      rw [List.foldl_cons, push_settled done segment (fun never => by cases never) (first.within true), ih _ behind]
      simp

theorem steps_settled {special : Bool} (segment : List Char) (settled : SettledIn special segment) :
    steps special segment = [segment] := by
  rw [steps, settled.pieces, List.map_singleton, settled.unescaped]

theorem steps_append (special : Bool) (front rest : List Char) :
    steps special (front ++ '/' :: rest) = steps special front ++ steps special rest := by
  rw [steps, pieces_append special front '/' rest (separates_slash special), List.map_append]
  rfl

theorem steps_behind {special : Bool} (first : List Char) (more : List (List Char)) (rest : List Char)
    (settled : ∀ segment ∈ first :: more, SettledIn special segment) :
    steps special (first ++ render more ++ '/' :: rest) = (first :: more) ++ steps special rest := by
  induction more generalizing first with
  | nil =>
      rw [steps_append, show render [] = [] from rfl, List.append_nil,
        steps_settled first (settled first List.mem_cons_self)]
  | cons next more ih =>
      have shape : first ++ render (next :: more) ++ '/' :: rest =
          first ++ '/' :: (next ++ render more ++ '/' :: rest) := by
        simp [render]
      have behind := ih next fun segment member => settled segment (List.mem_cons_of_mem _ member)
      rw [shape, steps_append, behind, steps_settled first (settled first List.mem_cons_self)]
      rfl

-- The last segment has no slash behind it, so it is split off first.
theorem steps_render {special : Bool} (first : List Char) (more : List (List Char))
    (settled : ∀ segment ∈ first :: more, SettledIn special segment) :
    steps special (first ++ render more) = first :: more := by
  rcases List.eq_nil_or_concat more with rfl | ⟨front, last, rfl⟩
  · rw [show render [] = [] from rfl, List.append_nil,
      steps_settled first (settled first List.mem_cons_self)]
  · rw [List.concat_eq_append] at settled ⊢
    have shape : first ++ render (front ++ [last]) = first ++ render front ++ '/' :: last := by
      rw [render_append]
      simp [render]
    have ahead : ∀ segment ∈ first :: front, SettledIn special segment := by
      intro segment member
      apply settled
      rcases List.mem_cons.mp member with rfl | inside
      · exact List.mem_cons_self
      · exact List.mem_cons_of_mem _ (List.mem_append_left _ inside)
    rw [shape, steps_behind first front last ahead, steps_settled last (settled last (by simp))]
    rfl

theorem hostedPath_render {special : Bool} (list : List (List Char)) (some_ : special = true → list ≠ [])
    (settled : ∀ segment ∈ list, SettledIn special segment) :
    hostedPath false special (render list) = list := by
  cases list with
  | nil =>
      cases special with
      | true => exact absurd rfl (some_ rfl)
      | false => rfl
  | cons first more =>
      have read : hostedPath false special (render (first :: more)) =
          segments false special (first ++ render more) := rfl
      rw [read, segments_web, steps_render first more settled,
        walk_settled _ _ (fun never => by cases never) settled]
      simp

/-- Segments up to the last one that is not empty. -/
def trimmed (list : List (List Char)) : List (List Char) :=
  (list.reverse.dropWhile List.isEmpty).reverse

theorem trimmed_subset (list : List (List Char)) : trimmed list ⊆ list := by
  intro segment member
  rw [trimmed, List.mem_reverse] at member
  exact List.mem_reverse.mp (List.dropWhile_subset _ member)

-- From the end: an empty last segment is a slash that is dropped, any other one stops it.
theorem dropEnd_render (list : List (List Char)) (whole : ∀ segment ∈ list, '/' ∉ segment) :
    Text.dropEnd '/' (render list) = render (trimmed list) := by
  induction list using List.reverseRecOn with
  | nil => rfl
  | append_singleton front last ih =>
      have ahead := ih fun segment member => whole segment (List.mem_append_left _ member)
      have text : render (front ++ [last]) = render front ++ '/' :: last := by
        rw [render_append]
        simp [render]
      cases empty : last.isEmpty with
      | true =>
          have nothing := List.isEmpty_iff.mp empty
          have shorter : trimmed (front ++ [last]) = trimmed front := by
            simp [trimmed, empty]
          rw [shorter, ← ahead, text, nothing]
          simp [Text.dropEnd]
      | false =>
          have kept : trimmed (front ++ [last]) = front ++ [last] := by
            simp [trimmed, empty]
          have ends : (render (front ++ [last])).getLast? ≠ some '/' := by
            intro slash
            rw [text, List.getLast?_append, List.getLast?_cons, Option.some_or] at slash
            cases backwards : last.getLast? with
            | none =>
                rw [List.getLast?_eq_none_iff.mp backwards] at empty
                cases empty
            | some c =>
                rw [backwards] at slash
                cases slash
                exact whole last (by simp) (List.mem_of_getLast? backwards)
          have dropped := Text.dropEnd_append '/' _ [] ends
          rw [List.append_nil] at dropped
          rw [kept, dropped]
          simp [Text.dropEnd]

/-! ## Climbing out of a path -/

/-- Whether a step takes back what stands below the segments of the path itself. -/
def climbsOnce (own : List (List Char)) (step : List Char) : Nat :=
  if isDoubleDot step && own.isEmpty then 1 else 0

/-- How many segments below its own a path takes back; `own` has those put down so far. -/
def climbsFrom : List (List Char) → List (List Char) → Nat
  | _, [] => 0
  | own, step :: rest => climbsOnce own step + climbsFrom (push false own step) rest

/-- How often a text that stands behind a separator climbs out of its own path. -/
def climbs (cs : List Char) : Nat := climbsFrom [] (steps true cs)

theorem shorten_over (own below : List (List Char)) :
    shorten (own ++ below) =
      shorten own ++ shorten^[if own.isEmpty then 1 else 0] below := by
  cases own with
  | nil => rfl
  | cons last own =>
      simp only [List.cons_append, shorten, List.isEmpty_cons, Bool.false_eq_true, if_false,
        Function.iterate_zero, id_eq]
      split
      · rfl
      · rfl

theorem push_over (own below : List (List Char)) (step : List Char) :
    push false (own ++ below) step =
      push false own step ++ shorten^[climbsOnce own step] below := by
  unfold push climbsOnce
  cases double : isDoubleDot step with
  | true =>
      simp only [if_true, Bool.true_and]
      exact shorten_over own below
  | false =>
      simp only [Bool.false_eq_true, if_false, Bool.false_and, Function.iterate_zero, id_eq]
      split
      · rfl
      · rfl

theorem close_over (own below : List (List Char)) (step : List Char) :
    close false (own ++ below) step =
      close false own step ++ shorten^[climbsOnce own step] below := by
  unfold close climbsOnce
  cases double : isDoubleDot step with
  | true =>
      simp only [if_true, Bool.true_and, List.cons_append]
      rw [shorten_over own below]
  | false =>
      simp only [Bool.false_eq_true, if_false, Bool.false_and, Function.iterate_zero, id_eq]
      split
      · rfl
      · rfl

/-- A walk over the segments of a prefix leaves what it would leave alone, over those of the prefix
that were not taken back. -/
theorem walk_over (own below given : List (List Char)) :
    walk false (own ++ below) given =
      walk false own given ++ shorten^[climbsFrom own given] below := by
  induction given generalizing own below with
  | nil => rfl
  | cons step rest ih =>
      cases rest with
      | nil =>
          simp only [walk, climbsFrom, Nat.add_zero]
          exact close_over own below step
      | cons next rest =>
          have step_first : ∀ done, walk false done (step :: next :: rest) =
              walk false (push false done step) (next :: rest) := fun _ => rfl
          have count : climbsFrom own (step :: next :: rest) =
              climbsFrom (push false own step) (next :: rest) + climbsOnce own step :=
            Nat.add_comm _ _
          rw [step_first, push_over, ih, step_first, count, Function.iterate_add_apply]

/-- The segments of a prefix that so many climbs leave. -/
def kept (list : List (List Char)) (times : Nat) : List (List Char) :=
  (shorten^[times] list.reverse).reverse

theorem kept_nil (times : Nat) : kept [] times = [] := by
  have stays : shorten^[times] [] = [] := Function.iterate_fixed rfl times
  rw [kept, List.reverse_nil, stays]
  rfl

theorem hostedPath_behind (list : List (List Char)) (rest : List Char)
    (settled : ∀ segment ∈ list, Settled segment) :
    hostedPath false true (render list ++ '/' :: rest) =
      kept list (climbs rest) ++ segments false true rest := by
  cases list with
  | nil =>
      rw [kept_nil]
      rfl
  | cons first more =>
      have walked := walk_over [] (first :: more).reverse (steps true rest)
      have joined : walk false (first :: more).reverse (steps true rest) =
          (kept (first :: more) (climbs rest) ++ segments false true rest).reverse := by
        rw [List.nil_append] at walked
        rw [walked, segments_web]
        simp [kept, climbs]
      have read : hostedPath false true (render (first :: more) ++ '/' :: rest) =
          segments false true (first ++ render more ++ '/' :: rest) := rfl
      rw [read, segments_web, steps_behind first more rest fun segment member => (settled segment member).within true,
        walk_append false (first :: more) _ [] (steps_ne_nil true rest),
        foldl_push_settled _ _ settled, List.append_nil, joined, List.reverse_reverse]

/-! ## Prefixes that stay -/

theorem shorten_suffix (done : List (List Char)) : shorten done <:+ done := by
  unfold shorten
  split
  · exact List.suffix_refl _
  · split
    · exact List.suffix_refl _
    · exact List.suffix_cons _ _

theorem iterate_shorten_suffix (times : Nat) (done : List (List Char)) :
    shorten^[times] done <:+ done := by
  induction times generalizing done with
  | zero => exact List.suffix_refl _
  | succ times ih =>
      rw [Function.iterate_succ_apply]
      exact (ih (shorten done)).trans (shorten_suffix done)

/-- Nothing can be taken back from the end of a path. -/
def Fixed (list : List (List Char)) : Prop := shorten list.reverse = list.reverse

instance (list : List (List Char)) : Decidable (Fixed list) :=
  inferInstanceAs (Decidable (shorten list.reverse = list.reverse))

theorem kept_eq_iff (list : List (List Char)) (times : Nat) :
    kept list times = list ↔ times = 0 ∨ Fixed list := by
  constructor
  · intro whole
    cases times with
    | zero => exact .inl rfl
    | succ times =>
        right
        have same : shorten^[times] (shorten list.reverse) = list.reverse := by
          rw [← Function.iterate_succ_apply, ← List.reverse_reverse (shorten^[_] _)]
          exact congrArg List.reverse whole
        have longer := iterate_shorten_suffix times (shorten list.reverse)
        rw [same] at longer
        exact (shorten_suffix _).eq_of_length_le longer.length_le
  · rintro (rfl | fixed)
    · exact List.reverse_reverse list
    · have stays : shorten^[times] list.reverse = list.reverse := Function.iterate_fixed fixed times
      rw [kept, stays, List.reverse_reverse]

theorem render_eq_nil (list : List (List Char)) (nothing : render list = []) : list = [] := by
  cases list with
  | nil => rfl
  | cons first more => cases nothing

-- What is left of a prefix is the start of it, so a text of the same length is the same.
theorem render_kept_iff (list : List (List Char)) (times : Nat) :
    render (kept list times) = render list ↔ kept list times = list := by
  constructor
  · intro same
    obtain ⟨gone, whole⟩ := iterate_shorten_suffix times list.reverse
    have parts : list = kept list times ++ gone.reverse := by
      rw [kept, ← List.reverse_append, whole, List.reverse_reverse]
    have text : render list = render (kept list times) ++ render gone.reverse := by
      rw [← render_append, ← parts]
    rw [same] at text
    have nothing := render_eq_nil gone.reverse (List.self_eq_append_right.mp text)
    rw [nothing, List.append_nil] at parts
    exact parts.symm
  · exact fun same => by rw [same]

end AccessGate.Url.Path
