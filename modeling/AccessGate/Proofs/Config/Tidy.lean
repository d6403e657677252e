import AccessGate.Proofs.Config.Variables

/-!
Tables that say each name once, as those do that were put together by laying. Such a table laid over another is
seen name by name, and the other one where it says nothing.
-/

namespace AccessGate.Config.Tree

open Json (Step)

/-- No table says a name twice, in tables of tables neither. -/
inductive Tidy : Tree → Prop where
  | leaf (origin : Origin) (scalar : Scalar) : Tidy (.leaf origin scalar)
  | list (origin : Origin) (items : List Tree) : Tidy (.list origin items)
  | table (origin : Origin) (entries : Entries) (distinct : (entries.map (·.1)).Nodup)
      (inside : ∀ entry ∈ entries, Tidy entry.2) : Tidy (.table origin entries)

theorem tidy_empty : Tidy empty := .table none [] List.nodup_nil nofun

theorem Tidy.distinct {tree : Tree} (tidy : Tidy tree) : (tree.entries.map (·.1)).Nodup := by
  cases tidy with
  | leaf origin scalar => exact List.nodup_nil
  | list origin items => exact List.nodup_nil
  | table origin entries distinct inside => exact distinct

theorem Tidy.inside {tree : Tree} (tidy : Tidy tree) : ∀ entry ∈ tree.entries, Tidy entry.2 := by
  cases tidy with
  | leaf origin scalar => exact nofun
  | list origin items => exact nofun
  | table origin entries distinct inside => exact inside

theorem Tidy.found {tree : Tree} (tidy : Tidy tree) (name : String) (inner : Tree)
    (found : tree.entries.get? name = some inner) : Tidy inner :=
  tidy.inside _ (Entries.mem_of_get? _ _ _ found)

theorem Tidy.put {tree : Tree} (tidy : Tidy tree) (name : String) (inner : Tree) (also : Tidy inner) :
    Tidy (.table none (tree.entries.put name inner)) := by
  refine .table none _ (Entries.nodup_put _ _ _ tidy.distinct) fun entry inside => ?_
  rcases Entries.mem_put _ _ _ _ inside with rfl | old
  · exact also
  · exact tidy.inside _ old

theorem tidy_getD (tree : Option Tree) (missing : Tree) (tidy : ∀ inner, tree = some inner → Tidy inner)
    (also : Tidy missing) : Tidy (tree.getD missing) := by
  cases tree with
  | none => exact also
  | some inner => exact tidy inner rfl

/-! ## Laying -/

-- By recursion on what is laid: a table is laid entry by entry, and each entry may be a table again.
mutual

theorem tidy_laid (above : Tree) (before : Option Tree) (tidy : ∀ tree, before = some tree → Tidy tree) :
    Tidy (laid above [] before) := by
  match above with
  | .leaf origin scalar => simpa only [laid] using .leaf origin scalar
  | .list origin items => simpa only [laid] using .list origin items
  | .table origin entries =>
      simp only [laid]
      exact tidy_layAll entries _ (tidy_getD before empty tidy tidy_empty)

theorem tidy_layAll (entries : Entries) (below : Tree) (tidy : Tidy below) : Tidy (layAll below entries) := by
  match entries with
  | [] => simpa only [layAll] using tidy
  | (name, above) :: rest =>
      rw [layAll_cons, layAt_member]
      exact tidy_layAll rest _ (tidy.put name _ (tidy_laid above _ (tidy.found name)))

end

theorem tidy_layAt (above below : Tree) (path : List Step) (tidy : Tidy below) :
    Tidy (layAt above path below) := by
  induction path generalizing below with
  | nil => simpa only [layAt] using tidy
  | cons step rest ih =>
      cases step with
      | item index => cases rest <;> exact .list none _
      | member name =>
          rw [layAt_member]
          refine tidy.put name _ ?_
          cases rest with
          | nil => exact tidy_laid above _ (tidy.found name)
          | cons next rest => exact ih _ (tidy_getD _ _ (tidy.found name) (.leaf none .nothing))

theorem tidy_laySource (source : Entries) (below : Tree) (tidy : Tidy below) : Tidy (below.laySource source) := by
  induction source generalizing below with
  | nil => exact tidy
  | cons entry rest ih =>
      rw [laySource_cons]
      exact ih _ (tidy_layAt _ _ _ tidy)

/-! ## Two layers -/

/-- What stands there when an upper layer is laid over a lower one. -/
def laidOver (lower upper : Option Tree) : Option Tree :=
  match upper with
  | none => lower
  | some tree => some (laid tree [] lower)

theorem get?_layAll (name : String) (entries : Entries) (distinct : (entries.map (·.1)).Nodup) (below : Tree) :
    (layAll below entries).entries.get? name = laidOver (below.entries.get? name) (entries.get? name) := by
  induction entries generalizing below with
  | nil => simp only [layAll, Entries.get?, laidOver]
  | cons first rest ih =>
      obtain ⟨key, above⟩ := first
      obtain ⟨fresh, distinct⟩ := List.nodup_cons.mp distinct
      rw [layAll_cons, ih distinct, get?_layAt, Entries.get?]
      by_cases same : key = name
      · have silent : Entries.get? name rest = none :=
          (Entries.get?_eq_none_iff name rest).mpr fun entry inside named =>
            fresh (List.mem_map.mpr ⟨entry, inside, named.trans same.symm⟩)
        rw [if_pos same, if_pos same, silent, same]
        rfl
      · rw [if_neg same, if_neg same]

theorem laidOver_value (lower : Option Tree) (tree : Tree) (value : tree.isTable = false) :
    laidOver lower (some tree) = some tree := congrArg some (laid_value tree lower value)

/-- A table that holds nothing. -/
def isHollow : Tree → Bool
  | table _ [] => true
  | _ => false

theorem isHollow_of_value (tree : Tree) (value : tree.isTable = false) : tree.isHollow = false := by
  cases tree with
  | leaf origin scalar => rfl
  | list origin items => rfl
  | table origin entries => cases value

theorem laidOver_hollow (lower : Option Tree) (tree : Tree) (hollow : tree.isHollow = true) :
    laidOver lower (some tree) = some (lower.getD empty) := by
  match tree, hollow with
  | .table origin [], _ => simp only [laidOver, laid, layAll]

theorem isTable_laidOver (lower upper : Option Tree) (below : ∀ tree, lower = some tree → tree.isTable = true)
    (above : ∀ tree, upper = some tree → tree.isTable = true) :
    ∀ tree, laidOver lower upper = some tree → tree.isTable = true := by
  cases upper with
  | none => exact below
  | some upper =>
      cases upper with
      | leaf origin scalar => cases above _ rfl
      | list origin items => cases above _ rfl
      | table origin entries =>
          rintro tree ⟨⟩
          simp only [laid]
          refine isTable_layAll _ _ ?_
          cases lower with
          | none => rfl
          | some tree => exact below tree rfl

theorem within_laidOver (name : String) (lower upper : Option Tree)
    (above : ∀ tree, upper = some tree → tree.isTable = true ∧ Tidy tree) :
    within name (laidOver lower upper) = laidOver (within name lower) (within name upper) := by
  cases upper with
  | none => rfl
  | some upper =>
      obtain ⟨table_, tidy⟩ := above upper rfl
      cases upper with
      | leaf origin scalar => cases table_
      | list origin items => cases table_
      | table origin entries =>
          rw [← get?_getD name lower empty rfl, laidOver]
          simp only [laid]
          exact get?_layAll name entries tidy.distinct _

theorem names_layAll (entries : Entries) (below : Tree)
    (distinct : (below.entries.map (·.1) ++ entries.map (·.1)).Nodup) :
    (layAll below entries).entries.map (·.1) = below.entries.map (·.1) ++ entries.map (·.1) := by
  induction entries generalizing below with
  | nil => simp [layAll]
  | cons first rest ih =>
      obtain ⟨name, above⟩ := first
      have fresh : name ∉ below.entries.map (·.1) := fun inside =>
        (List.nodup_append.mp distinct).2.2 name inside name List.mem_cons_self rfl
      have names : (layAt above [.member name] below).entries.map (·.1) = below.entries.map (·.1) ++ [name] := by
        rw [layAt_member]
        exact Entries.names_put _ _ _ fresh
      rw [layAll_cons, ih _ (by simpa [names] using distinct), names]
      simp

theorem names_laidOver (lower : Option Tree) (bare : ∀ tree, lower = some tree → tree.isTable = false)
    (origin : Origin) (first : String × Tree) (rest : Entries) (tidy : Tidy (.table origin (first :: rest))) :
    ∃ tree, laidOver lower (some (.table origin (first :: rest))) = some tree ∧ tree.isTable = true ∧
      tree.entries.map (·.1) = (first :: rest).map (·.1) := by
  have nothing : (lower.getD empty).entries = [] := by
    cases lower with
    | none => rfl
    | some tree =>
        cases tree with
        | leaf origin scalar => rfl
        | list origin items => rfl
        | table origin entries => cases bare _ rfl
  refine ⟨layAll (lower.getD empty) (first :: rest), by simp only [laidOver, laid], ?_, ?_⟩
  · obtain ⟨name, above⟩ := first
    rw [layAll_cons]
    exact isTable_layAll _ _ (isTable_layAt _ _ _ _)
  · rw [names_layAll _ _ (by rw [nothing]; exact tidy.distinct), nothing]
    rfl

end AccessGate.Config.Tree
