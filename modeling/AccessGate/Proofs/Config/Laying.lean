import AccessGate.Config.Tree
import Mathlib.Data.List.Basic

/-!
What can be found in a tree after sources were laid over it. A name of the whole is changed by the entries
of a source that lead to it and by no others, and what stands there stays a table as long as no entry puts
something else in its place.
-/

namespace AccessGate.Config.Tree

open Json (Step)

/-! ## One entry -/

/-- What stands under a name once something is laid there, or further along a path. -/
def laid (above : Tree) (rest : List Step) (before : Option Tree) : Tree :=
  match rest, above with
  | [], .table _ entries => layAll (before.getD empty) entries
  | [], above => above
  | rest, above => layAt above rest (before.getD (.leaf none .nothing))

theorem layAt_member (above below : Tree) (name : String) (rest : List Step) :
    layAt above (.member name :: rest) below =
      .table none (below.entries.put name (laid above rest (below.entries.get? name))) := by
  cases rest with
  | cons step rest => rfl
  | nil =>
      cases above with
      | table origin entries => simp only [layAt, lay, laid]
      | leaf origin scalar => simp only [layAt, lay, laid]
      | list origin items => simp only [layAt, lay, laid]

theorem get?_layAt (above below : Tree) (name key : String) (rest : List Step) :
    (layAt above (.member key :: rest) below).entries.get? name =
      if key = name then some (laid above rest (below.entries.get? key)) else below.entries.get? name := by
  rw [layAt_member]
  exact Entries.get?_put name key _ _

theorem layAll_cons (below above : Tree) (name : String) (rest : Entries) :
    layAll below ((name, above) :: rest) = layAll (layAt above [.member name] below) rest := rfl

theorem lowerNames_value (tree : Tree) (value : tree.isTable = false) : tree.lowerNames = tree := by
  cases tree with
  | leaf origin scalar => simp only [lowerNames]
  | list origin items => simp only [lowerNames]
  | table origin entries => cases value

/-! ## What is found inside -/

/-- What is found under a name inside something. -/
def within (name : String) (tree : Option Tree) : Option Tree := tree.bind (·.entries.get? name)

theorem get?_getD (name : String) (tree : Option Tree) (missing : Tree) (bare : missing.entries = []) :
    (tree.getD missing).entries.get? name = within name tree := by
  cases tree with
  | none => simp only [Option.getD_none, bare, Entries.get?, within, Option.bind_none]
  | some tree => rfl

theorem within_laid (above : Tree) (name key : String) (rest : List Step) (before : Option Tree) :
    within name (some (laid above (.member key :: rest) before)) =
      if key = name then some (laid above rest (within key before)) else within name before := by
  have inside : ∀ name, (before.getD (.leaf none .nothing)).entries.get? name = within name before :=
    fun name => get?_getD name before _ rfl
  rw [← inside, ← inside]
  exact get?_layAt above _ name key rest

theorem isTable_layAt (above below : Tree) (name : String) (rest : List Step) :
    (layAt above (.member name :: rest) below).isTable = true := by
  rw [layAt_member]
  rfl

theorem isTable_layAll (below : Tree) (entries : Entries) (table_ : below.isTable = true) :
    (layAll below entries).isTable = true := by
  induction entries generalizing below with
  | nil => simpa only [layAll] using table_
  | cons first rest ih =>
      rw [layAll_cons]
      exact ih _ (isTable_layAt _ _ _ _)

/-! ## Whole sources -/

/-- What stands under a name after one more entry of a source. -/
def after (name : String) (found : Option Tree) (entry : String × Tree) : Option Tree :=
  match pathOf (lowered entry.1) with
  | .member key :: rest => if key = name then some (laid entry.2.lowerNames rest found) else found
  | _ => found

/-- What stands under a name after all entries of a source. -/
def standing (name : String) (source : Entries) (before : Option Tree) : Option Tree :=
  source.foldl (after name) before

theorem standing_cons (name : String) (entry : String × Tree) (rest : Entries) (before : Option Tree) :
    standing name (entry :: rest) before = standing name rest (after name before entry) := by
  simp only [standing, List.foldl_cons]

theorem laySource_nil (below : Tree) : below.laySource [] = below := rfl

theorem laySource_cons (entry : String × Tree) (rest : Entries) (below : Tree) :
    below.laySource (entry :: rest) =
      (layAt entry.2.lowerNames (pathOf (lowered entry.1)) below).laySource rest := by
  simp only [laySource, List.foldl_cons]

theorem pathOf_member (name : String) : ∃ key rest, pathOf name = .member key :: rest := by
  unfold pathOf
  dsimp only
  split
  · exact ⟨_, _, rfl⟩
  · exact ⟨_, _, rfl⟩

theorem after_leads (name : String) (found : Option Tree) (entry : String × Tree) (rest : List Step)
    (leads : pathOf (lowered entry.1) = .member name :: rest) :
    after name found entry = some (laid entry.2.lowerNames rest found) := by
  simp [after, leads]

theorem after_other (name key : String) (found : Option Tree) (entry : String × Tree) (rest : List Step)
    (leads : pathOf (lowered entry.1) = .member key :: rest) (other : key ≠ name) :
    after name found entry = found := by
  simp [after, leads, other]

theorem after_apart (name : String) (found : Option Tree) (entry : String × Tree)
    (apart : ∀ rest, pathOf (lowered entry.1) ≠ .member name :: rest) : after name found entry = found := by
  obtain ⟨key, rest, path⟩ := pathOf_member (lowered entry.1)
  exact after_other name key found entry rest path fun same => apart rest (same ▸ path)

-- By induction on the entries, with what they are laid over left open.
theorem get?_laySource (name : String) (source : Entries) (below : Tree) :
    (below.laySource source).entries.get? name = standing name source (below.entries.get? name) := by
  induction source generalizing below with
  | nil => rfl
  | cons entry rest ih =>
      obtain ⟨key, path, leads⟩ := pathOf_member (lowered entry.1)
      rw [laySource_cons, standing_cons, ih, leads, get?_layAt]
      by_cases same : key = name
      · subst same
        rw [if_pos rfl, after_leads _ _ _ _ leads]
      · rw [if_neg same, after_other name key _ entry path leads same]

theorem standing_apart (name : String) (source : Entries) (before : Option Tree)
    (apart : ∀ entry ∈ source, ∀ rest, pathOf (lowered entry.1) ≠ .member name :: rest) :
    standing name source before = before := by
  induction source generalizing before with
  | nil => rfl
  | cons entry rest ih =>
      obtain ⟨first, others⟩ := List.forall_mem_cons.mp apart
      rw [standing_cons, after_apart name before entry first]
      exact ih before others

theorem isSome_standing (name : String) (source : Entries) (before : Option Tree)
    (found : before.isSome = true ∨ ∃ entry ∈ source, ∃ rest, pathOf (lowered entry.1) = .member name :: rest) :
    (standing name source before).isSome = true := by
  induction source generalizing before with
  | nil =>
      rcases found with found | ⟨entry, inside, -⟩
      · exact found
      · cases inside
  | cons entry rest ih =>
      rw [standing_cons]
      apply ih
      by_cases leads : ∃ path, pathOf (lowered entry.1) = .member name :: path
      · obtain ⟨path, leads⟩ := leads
        exact .inl (by rw [after_leads _ _ _ _ leads]; rfl)
      · rw [after_apart name before entry (not_exists.mp leads)]
        rcases found with found | ⟨other, inside, path⟩
        · exact .inl found
        · rcases List.mem_cons.mp inside with rfl | inside
          · exact absurd path leads
          · exact .inr ⟨other, inside, path⟩

/-! ## Sections -/

/-- An entry that puts something in the place of a whole section, which then is no table. -/
inductive Replaces (name : String) : String × Tree → Prop where
  | value (key : String) (tree : Tree) (leads : pathOf (lowered key) = [.member name])
      (other : tree.isTable = false) : Replaces name (key, tree)
  | item (key : String) (tree : Tree) (index : Nat) (rest : List Step)
      (leads : pathOf (lowered key) = .member name :: .item index :: rest) : Replaces name (key, tree)

theorem isTable_after (name : String) (entry : String × Tree) (kept : ¬ Replaces name entry) (before : Option Tree)
    (tables : ∀ tree, before = some tree → tree.isTable = true) :
    ∀ tree, after name before entry = some tree → tree.isTable = true := by
  obtain ⟨key, rest, path⟩ := pathOf_member (lowered entry.1)
  by_cases same : key = name
  case neg => rwa [after_other name key before entry rest path same]
  subst same
  rw [after_leads _ _ _ _ path]
  obtain ⟨written, above⟩ := entry
  rintro tree ⟨⟩
  match rest, above with
  | [], .leaf origin scalar => exact absurd (.value _ _ path rfl) kept
  | [], .list origin items => exact absurd (.value _ _ path rfl) kept
  | .item index :: rest, above => exact absurd (.item _ _ index rest path) kept
  | .member next :: rest, above => exact isTable_layAt _ _ _ _
  | [], .table origin entries =>
      have below : (before.getD empty).isTable = true := by
        cases before with
        | none => rfl
        | some found => exact tables found rfl
      exact isTable_layAll _ _ below

theorem isTable_kept (name : String) (source : Entries) (kept : ∀ entry ∈ source, ¬ Replaces name entry)
    (before : Option Tree) (tables : ∀ tree, before = some tree → tree.isTable = true) :
    ∀ tree, standing name source before = some tree → tree.isTable = true := by
  induction source generalizing before with
  | nil => exact tables
  | cons entry rest ih =>
      obtain ⟨first, others⟩ := List.forall_mem_cons.mp kept
      rw [standing_cons]
      exact ih others _ (isTable_after name entry first before tables)

end AccessGate.Config.Tree
