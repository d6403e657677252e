import AccessGate.Proofs.Config.Variables

/-!
What the entries of a source that may hold tables, as those of a file do, say of one name in a section: the
last entry that bears on the name decides.
-/

namespace AccessGate.Config.Tree

open Json (Step)

variable (part name : String)

/-- An entry that bears on a name of a section: it says something there, or takes the place of the section. -/
inductive Bears : String × Tree → Prop where
  | replaces (entry : String × Tree) (replaces : Replaces part entry) : Bears entry
  | inside (key inner : String) (origin : Origin) (entries : Entries) (tree : Tree)
      (leads : pathOf (lowered key) = [.member part]) (member : (inner, tree) ∈ entries)
      (named : lowered inner = name) : Bears (key, .table origin entries)
  | along (key : String) (tree : Tree) (rest : List Step)
      (leads : pathOf (lowered key) = .member part :: .member name :: rest) : Bears (key, tree)

/-- An entry that says the value of a name of a section, by itself or in a table. -/
inductive Gives : String × Tree → Tree → Prop where
  | inside (key inner : String) (origin : Origin) (earlier later : Entries) (tree : Tree)
      (leads : pathOf (lowered key) = [.member part]) (named : lowered inner = name)
      (last : ∀ entry ∈ later, lowered entry.1 ≠ name) (value : tree.isTable = false) :
      Gives (key, .table origin (earlier ++ (inner, tree) :: later)) tree
  | along (entry : String × Tree) (writes : Writes part name entry) : Gives entry entry.2

/-! ## Tables -/

theorem layAll_append (below : Tree) (earlier later : Entries) :
    layAll below (earlier ++ later) = layAll (layAll below earlier) later := by
  induction earlier generalizing below with
  | nil => simp only [List.nil_append, layAll]
  | cons first rest ih => rw [List.cons_append, layAll_cons, layAll_cons, ih]

theorem lowerEntries_append (earlier later : Entries) :
    lowerEntries (earlier ++ later) = lowerEntries earlier ++ lowerEntries later := by
  induction earlier with
  | nil => rw [List.nil_append, lowerEntries, List.nil_append]
  | cons first rest ih => simp only [List.cons_append, lowerEntries, ih]

theorem get?_layAll_silent (below : Tree) (entries : Entries)
    (silent : ∀ entry ∈ entries, lowered entry.1 ≠ name) :
    (layAll below (lowerEntries entries)).entries.get? name = below.entries.get? name := by
  induction entries generalizing below with
  | nil => simp only [lowerEntries, layAll]
  | cons first rest ih =>
      obtain ⟨here, later⟩ := List.forall_mem_cons.mp silent
      rw [lowerEntries, layAll_cons, ih _ later, get?_layAt, if_neg here]

theorem get?_layAll_last (below : Tree) (earlier later : Entries) (inner : String) (tree : Tree)
    (named : lowered inner = name) (last : ∀ entry ∈ later, lowered entry.1 ≠ name)
    (value : tree.isTable = false) :
    (layAll below (lowerEntries (earlier ++ (inner, tree) :: later))).entries.get? name = some tree := by
  rw [lowerEntries_append, lowerEntries, layAll_append, layAll_cons, get?_layAll_silent name _ later last,
    get?_layAt, if_pos named, lowerNames_value tree value, laid_value tree _ value]

/-! ## Whole sources -/

variable {part name}

theorem not_bears_of_apart (entry : String × Tree)
    (apart : ∀ rest, pathOf (lowered entry.1) ≠ .member part :: rest) : ¬ Bears part name entry := by
  intro bears
  cases bears with
  | replaces _ replaces =>
      cases replaces with
      | value key tree leads other => exact apart [] leads
      | item key tree index rest leads => exact apart _ leads
  | inside key inner origin entries tree leads member named => exact apart [] leads
  | along key tree rest leads => exact apart _ leads

theorem within_after_silent (entry : String × Tree) (silent : ¬ Bears part name entry) (before : Option Tree) :
    within name (after part before entry) = within name before := by
  obtain ⟨key, rest, path⟩ := pathOf_member (lowered entry.1)
  by_cases same : key = part
  case neg => rw [after_other part key before entry rest path same]
  subst same
  rw [after_leads _ _ _ _ path]
  obtain ⟨written, above⟩ := entry
  match rest, above with
  | [], .leaf origin scalar => exact absurd (.replaces _ (.value _ _ path rfl)) silent
  | [], .list origin items => exact absurd (.replaces _ (.value _ _ path rfl)) silent
  | .item index :: rest, above => exact absurd (.replaces _ (.item _ _ index rest path)) silent
  | .member inner :: rest, above =>
      have other : inner ≠ name := fun same => silent (.along _ _ rest (same ▸ path))
      rw [within_laid, if_neg other]
  | [], .table origin entries =>
      have absent : ∀ entry ∈ entries, lowered entry.1 ≠ name := fun entry member named =>
        silent (.inside _ entry.1 origin entries entry.2 path member named)
      rw [← get?_getD name before empty rfl]
      simp only [lowerNames, laid]
      exact get?_layAll_silent name _ entries absent

theorem within_standing_silent (source : Entries) (silent : ∀ entry ∈ source, ¬ Bears part name entry)
    (before : Option Tree) : within name (standing part source before) = within name before := by
  induction source generalizing before with
  | nil => rfl
  | cons entry rest ih =>
      obtain ⟨here, later⟩ := List.forall_mem_cons.mp silent
      rw [standing_cons, ih later, within_after_silent entry here]

theorem within_after_gives (entry : String × Tree) (tree : Tree) (gives : Gives part name entry tree)
    (before : Option Tree) : within name (after part before entry) = some tree := by
  cases gives with
  | along _ writes => rw [within_after_writes part name entry writes, if_pos rfl]
  | inside key inner origin earlier later _ leads named last value =>
      rw [after_leads part before (key, _) [] leads]
      simp only [lowerNames, laid]
      exact get?_layAll_last name _ earlier later inner tree named last value

theorem Gives.value {entry : String × Tree} {tree : Tree} (gives : Gives part name entry tree) :
    tree.isTable = false := by
  cases gives with
  | along _ writes => exact writes.value
  | inside key inner origin earlier later _ leads named last value => exact value

theorem isTable_after_gives (entry : String × Tree) (tree : Tree) (gives : Gives part name entry tree)
    (before : Option Tree) : ∀ found, after part before entry = some found → found.isTable = true := by
  cases gives with
  | along _ writes =>
      rw [after_writes part name entry writes]
      rintro found ⟨⟩
      exact isTable_layAt _ _ _ _
  | inside key inner origin earlier later _ leads named last value =>
      rw [after_leads part before (key, _) [] leads]
      rintro found ⟨⟩
      simp only [lowerNames, laid]
      rw [lowerEntries_append, lowerEntries, layAll_append, layAll_cons]
      exact isTable_layAll _ _ (isTable_layAt _ _ _ _)

theorem standing_append (earlier later : Entries) (before : Option Tree) :
    standing part (earlier ++ later) before = standing part later (standing part earlier before) :=
  List.foldl_append

theorem within_standing_last (earlier later : Entries) (entry : String × Tree) (tree : Tree)
    (gives : Gives part name entry tree) (silent : ∀ other ∈ later, ¬ Bears part name other)
    (before : Option Tree) :
    within name (standing part (earlier ++ entry :: later) before) = some tree := by
  rw [standing_append, standing_cons, within_standing_silent later silent, within_after_gives entry tree gives]

end AccessGate.Config.Tree
