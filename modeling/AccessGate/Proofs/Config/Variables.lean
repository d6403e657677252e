import AccessGate.Proofs.Config.Laying

/-!
Sources that say one value at a time, as environment variables do: what they make of a section, and that the
last variable of a name counts.
-/

namespace AccessGate.Config

open Json (Step)

/-! ## Entries by name -/

namespace Entries

theorem mem_put (name : String) (tree : Tree) (entries : Entries) (entry : String × Tree)
    (inside : entry ∈ entries.put name tree) : entry = (name, tree) ∨ entry ∈ entries := by
  induction entries with
  | nil => exact .inl (List.mem_singleton.mp inside)
  | cons first rest ih =>
      obtain ⟨key, old⟩ := first
      by_cases same : key = name
      · subst same
        simp only [put, if_true] at inside
        rcases List.mem_cons.mp inside with here | later
        · exact .inl here
        · exact .inr (List.mem_cons_of_mem _ later)
      · simp only [put, same, if_false] at inside
        rcases List.mem_cons.mp inside with here | later
        · exact .inr (here ▸ List.mem_cons_self)
        · exact (ih later).imp_right (List.mem_cons_of_mem _)

theorem nodup_put (name : String) (tree : Tree) (entries : Entries) (distinct : (entries.map (·.1)).Nodup) :
    ((entries.put name tree).map (·.1)).Nodup := by
  induction entries with
  | nil => simp [put]
  | cons first rest ih =>
      obtain ⟨key, old⟩ := first
      by_cases same : key = name
      · subst same
        simpa only [put, if_true, List.map_cons] using distinct
      · simp only [put, same, if_false]
        obtain ⟨fresh, others⟩ := List.nodup_cons.mp distinct
        refine List.nodup_cons.mpr ⟨fun inside => ?_, ih others⟩
        obtain ⟨entry, member, named⟩ := List.mem_map.mp inside
        rcases mem_put name tree rest entry member with rfl | old_
        · exact same named.symm
        · exact fresh (List.mem_map.mpr ⟨entry, old_, named⟩)

theorem names_put (name : String) (tree : Tree) (entries : Entries) (fresh : name ∉ entries.map (·.1)) :
    (entries.put name tree).map (·.1) = entries.map (·.1) ++ [name] := by
  induction entries with
  | nil => rfl
  | cons first rest ih =>
      obtain ⟨key, old⟩ := first
      have other : key ≠ name := (List.ne_of_not_mem_cons fresh).symm
      simp [put, other, ih (List.not_mem_of_not_mem_cons fresh)]

def putAll (entries writes : Entries) : Entries :=
  writes.foldl (fun entries entry => entries.put entry.1 entry.2) entries

theorem mem_putAll (entries writes : Entries) (entry : String × Tree) (inside : entry ∈ entries.putAll writes) :
    entry ∈ entries ∨ entry ∈ writes := by
  induction writes generalizing entries with
  | nil => exact .inl inside
  | cons first rest ih =>
      rcases ih (entries.put first.1 first.2) inside with old | later
      · rcases mem_put _ _ _ _ old with rfl | older
        · exact .inr List.mem_cons_self
        · exact .inl older
      · exact .inr (List.mem_cons_of_mem _ later)

theorem nodup_putAll (entries writes : Entries) (distinct : (entries.map (·.1)).Nodup) :
    ((entries.putAll writes).map (·.1)).Nodup := by
  induction writes generalizing entries with
  | nil => exact distinct
  | cons first rest ih => exact ih _ (nodup_put _ _ _ distinct)

theorem get?_putAll (name : String) (entries writes : Entries) :
    (entries.putAll writes).get? name =
      ((writes.reverse.find? (·.1 == name)).map (·.2)).or (entries.get? name) := by
  induction writes generalizing entries with
  | nil => rfl
  | cons first rest ih =>
      change (putAll (entries.put first.1 first.2) rest).get? name = _
      rw [ih, get?_put, List.reverse_cons, List.find?_append]
      cases rest.reverse.find? (·.1 == name) with
      | some found => rfl
      | none => by_cases same : first.1 = name <;> simp [same]

theorem get?_eq_none_iff (name : String) (entries : Entries) :
    entries.get? name = none ↔ ∀ entry ∈ entries, entry.1 ≠ name := by
  induction entries with
  | nil => simp [get?]
  | cons first rest ih =>
      by_cases same : first.1 = name <;> simp [get?, same, ih]

theorem mem_of_get? (name : String) (tree : Tree) (entries : Entries) (found : entries.get? name = some tree) :
    (name, tree) ∈ entries := by
  induction entries with
  | nil => cases found
  | cons first rest ih =>
      obtain ⟨key, old⟩ := first
      by_cases same : key = name
      · subst same
        simp only [get?, if_true, Option.some.injEq] at found
        exact found ▸ List.mem_cons_self
      · simp only [get?, same, if_false] at found
        exact List.mem_cons_of_mem _ (ih found)

end Entries

theorem ofEnvironment_eq (start : String) (environment : List (String × String)) :
    ofEnvironment start environment = Entries.putAll [] (environment.filterMap (entryOfVariable start)) := rfl

theorem mem_ofEnvironment (start : String) (environment : List (String × String)) (entry : String × Tree)
    (inside : entry ∈ ofEnvironment start environment) :
    ∃ variable_ ∈ environment, entryOfVariable start variable_ = some entry := by
  rw [ofEnvironment_eq] at inside
  rcases Entries.mem_putAll _ _ _ inside with none_ | found
  · cases none_
  · exact List.mem_filterMap.mp found

theorem nodup_ofEnvironment (start : String) (environment : List (String × String)) :
    ((ofEnvironment start environment).map (·.1)).Nodup :=
  Entries.nodup_putAll [] _ List.nodup_nil

theorem get?_ofEnvironment (start name : String) (environment : List (String × String)) :
    (ofEnvironment start environment).get? name =
      ((environment.reverse.filterMap (entryOfVariable start)).find? (·.1 == name)).map (·.2) := by
  rw [ofEnvironment_eq, Entries.get?_putAll, List.filterMap_reverse]
  exact Option.or_none

/-! ## One value of a section at a time -/

namespace Tree

/-- An entry that says the value of one name of a section. -/
structure Writes (part name : String) (entry : String × Tree) : Prop where
  leads : pathOf (lowered entry.1) = [.member part, .member name]
  value : entry.2.isTable = false

theorem laid_value (above : Tree) (before : Option Tree) (value : above.isTable = false) :
    laid above [] before = above := by
  cases above with
  | leaf origin scalar => simp only [laid]
  | list origin items => simp only [laid]
  | table origin entries => cases value

theorem after_writes (part name : String) (entry : String × Tree) (writes : Writes part name entry)
    (before : Option Tree) :
    after part before entry = some (laid entry.2 [.member name] before) := by
  rw [after_leads part before entry [.member name] writes.leads, lowerNames_value _ writes.value]

theorem within_after_writes (part name : String) (entry : String × Tree) (writes : Writes part name entry)
    (key : String) (before : Option Tree) :
    within key (after part before entry) = if name = key then some entry.2 else within key before := by
  rw [after_writes part name entry writes, within_laid, laid_value _ _ writes.value]

theorem after_writes_apart (part name other : String) (entry : String × Tree) (writes : Writes other name entry)
    (apart : other ≠ part) (before : Option Tree) : after part before entry = before :=
  after_other part other before entry [.member name] writes.leads apart

theorem Writes.unique {part name other key : String} {entry : String × Tree} (one : Writes part name entry)
    (two : Writes other key entry) : part = other ∧ name = key := by
  cases one.leads.symm.trans two.leads
  exact ⟨rfl, rfl⟩

variable (part : String) (source : Entries) (writes : ∀ entry ∈ source, ∃ part name, Writes part name entry)
include writes

theorem within_standing (name key : String) (distinct : (source.map (·.1)).Nodup)
    (known : ∀ entry ∈ source, Writes part name entry ↔ entry.1 = key) (before : Option Tree) :
    within name (standing part source before) = (source.get? key).or (within name before) := by
  induction source generalizing before with
  | nil => rfl
  | cons entry rest ih =>
      obtain ⟨⟨other, next, written⟩, others⟩ := List.forall_mem_cons.mp writes
      obtain ⟨here, later⟩ := List.forall_mem_cons.mp known
      obtain ⟨fresh, distinct⟩ := List.nodup_cons.mp distinct
      rw [standing_cons, ih others distinct later]
      by_cases same : entry.1 = key
      · have absent : Entries.get? key rest = none :=
          (Entries.get?_eq_none_iff key rest).mpr fun found inside named =>
            fresh (List.mem_map.mpr ⟨found, inside, named.trans same.symm⟩)
        obtain ⟨rfl, rfl⟩ := written.unique (here.mpr same)
        simp [absent, within_after_writes _ _ _ written, Entries.get?, same]
      · have unchanged : within name (after part before entry) = within name before := by
          by_cases inner : other = part
          · subst inner
            have apart : next ≠ name := by
              rintro rfl
              exact same (here.mp written)
            rw [within_after_writes _ _ _ written, if_neg apart]
          · rw [after_writes_apart part next other entry written inner]
        simp [unchanged, Entries.get?, same]

theorem isTable_standing (before : Option Tree)
    (tables : (∀ tree, before = some tree → tree.isTable = true) ∨
      ∃ entry ∈ source, ∃ name, Writes part name entry)
    (tree : Tree) (found : standing part source before = some tree) : tree.isTable = true := by
  induction source generalizing before with
  | nil =>
      rcases tables with tables | ⟨entry, inside, -⟩
      · exact tables tree found
      · cases inside
  | cons entry rest ih =>
      obtain ⟨⟨other, next, written⟩, others⟩ := List.forall_mem_cons.mp writes
      rw [standing_cons] at found
      refine ih others _ ?_ found
      by_cases inner : other = part
      · subst inner
        left
        rw [after_writes _ _ _ written]
        rintro tree ⟨⟩
        exact isTable_layAt _ _ _ _
      · rw [after_writes_apart part next other entry written inner]
        refine tables.imp_right ?_
        rintro ⟨found, inside, name, said⟩
        rcases List.mem_cons.mp inside with rfl | inside
        · exact absurd (written.unique said).1 inner
        · exact ⟨found, inside, name, said⟩

theorem standing_untouched (before : Option Tree)
    (untouched : ∀ entry ∈ source, ∀ name, ¬ Writes part name entry) :
    standing part source before = before := by
  apply standing_apart
  intro entry inside rest leads
  obtain ⟨other, name, written⟩ := writes entry inside
  cases written.leads.symm.trans leads
  exact untouched entry inside name written

end Tree

end AccessGate.Config
