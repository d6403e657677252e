import AccessGate.Proofs.Config.Tidy
import AccessGate.Proofs.Config.Written
import AccessGate.Proofs.Settings.Loading
import Mathlib.Data.List.Find
import Mathlib.Data.List.Nodup

/-!
What each layer says on a setting: the defaults and the variables that name settings write one value at a time,
the file writes sections.
-/

namespace AccessGate.Settings

open Config (Tree Entries lowered entryOfVariable environmentOrigin ofEnvironment)
open Config.Tree (within standing laidOver Writes Bears Gives)

/-! ## Names of settings -/

/-- The name of a setting in a configuration. -/
def keyOf (s : Section) (entry : Entry) : String := s.name ++ "." ++ entry.name

set_option maxRecDepth 10000 in
theorem path_keyOf : ∀ s ∈ schema, ∀ entry ∈ s.entries,
    Tree.pathOf (lowered (keyOf s entry)) = [.member s.name, .member entry.name] := by
  decide +kernel

/-- A variable that names a setting, in any case. -/
def names (s : Section) (entry : Entry) (name : String) : Bool :=
  lowered name == lowered environmentStart ++ (s.name ++ "__" ++ entry.name)

/-- The value that a variable stands for. -/
def ofVariable (text : String) : Tree := .leaf (some environmentOrigin) (.text text)

theorem separated_names : ∀ s ∈ schema, ∀ entry ∈ s.entries,
    String.ofList (Config.separated (s.name ++ "__" ++ entry.name).toList) = keyOf s entry := by
  decide +kernel

theorem entryOfVariable_named (s : Section) (inside : s ∈ schema) (entry : Entry) (member : entry ∈ s.entries)
    (name text : String) (named : names s entry name = true) :
    entryOfVariable environmentStart (name, text) = some (keyOf s entry, ofVariable text) := by
  unfold entryOfVariable
  rw [eq_of_beq named, String.toList_append, Text.afterStart?_append, Option.map_some,
    separated_names s inside entry member]
  rfl

theorem eq_of_keyOf (s : Section) (inside : s ∈ schema) (entry : Entry) (member : entry ∈ s.entries)
    (other : Section) (otherInside : other ∈ schema) (item : Entry) (otherMember : item ∈ other.entries)
    (same : keyOf s entry = keyOf other item) : s.name = other.name ∧ entry.name = item.name := by
  have path := path_keyOf s inside entry member
  rw [same, path_keyOf other otherInside item otherMember] at path
  simpa [eq_comm] using path

theorem names_unique (s : Section) (inside : s ∈ schema) (entry : Entry) (member : entry ∈ s.entries)
    (other : Section) (otherInside : other ∈ schema) (item : Entry) (otherMember : item ∈ other.entries)
    (name : String) (one : names s entry name = true) (two : names other item name = true) :
    s.name = other.name ∧ entry.name = item.name := by
  have first := entryOfVariable_named s inside entry member name "" one
  have second := entryOfVariable_named other otherInside item otherMember name "" two
  exact eq_of_keyOf s inside entry member other otherInside item otherMember
    (congrArg Prod.fst (Option.some.inj (first.symm.trans second)))

theorem names_congr (s other : Section) (entry item : Entry) (part : s.name = other.name)
    (name : entry.name = item.name) : names s entry = names other item := by
  funext variable_
  rw [names, names, part, name]

theorem eq_of_sectionName (s : Section) (inside : s ∈ schema) (other : Section) (otherInside : other ∈ schema)
    (same : s.name = other.name) : s = other :=
  List.inj_on_of_nodup_map distinct_sections inside otherInside same

theorem eq_of_names (s other : Section) (inside : s ∈ schema) (otherInside : other ∈ schema) (entry item : Entry)
    (member : entry ∈ s.entries) (itemMember : item ∈ other.entries)
    (same : s.name = other.name ∧ entry.name = item.name) : s = other ∧ entry = item := by
  obtain ⟨part, name⟩ := same
  cases eq_of_sectionName s inside other otherInside part
  exact ⟨rfl, List.inj_on_of_nodup_map (distinct_entries s inside) member itemMember name⟩

/-! ## Sources of single values -/

/-- A source that says the values of settings one by one. -/
def Plain (source : Entries) : Prop :=
  ∀ entry ∈ source, entry.2.isTable = false ∧ ∃ s ∈ schema, ∃ item ∈ s.entries, entry.1 = keyOf s item

section Sources

variable {source : Entries} (plain : Plain source)
include plain

theorem Plain.writes : ∀ entry ∈ source, ∃ part name, Writes part name entry := by
  intro entry inside
  obtain ⟨value, s, known, item, member, named⟩ := plain entry inside
  exact ⟨s.name, item.name, named ▸ path_keyOf s known item member, value⟩

theorem Plain.writes_iff (s : Section) (known : s ∈ schema) (item : Entry) (member : item ∈ s.entries) :
    ∀ entry ∈ source, Writes s.name item.name entry ↔ entry.1 = keyOf s item := by
  intro entry inside
  obtain ⟨value, other, otherKnown, next, nextMember, named⟩ := plain entry inside
  have path := path_keyOf other otherKnown next nextMember
  rw [← named] at path
  constructor
  · intro writes
    obtain ⟨parts, names⟩ := writes.unique ⟨path, value⟩
    rw [named, keyOf, keyOf, parts, names]
  · intro same
    exact ⟨same ▸ path_keyOf s known item member, value⟩

theorem Plain.within_standing (distinct : (source.map (·.1)).Nodup) (s : Section) (known : s ∈ schema)
    (item : Entry) (member : item ∈ s.entries) (before : Option Tree) :
    within item.name (standing s.name source before) =
      (source.get? (keyOf s item)).or (within item.name before) :=
  Tree.within_standing s.name source plain.writes item.name (keyOf s item) distinct
    (plain.writes_iff s known item member) before

end Sources

theorem plain_defaults : Plain defaults := by
  have named : ∀ name ∈ defaults.map (·.1), ∃ s ∈ schema, ∃ item ∈ s.entries, name = keyOf s item := by
    decide +kernel
  have value : ∀ entry ∈ defaults, entry.2.isTable = false := by
    simp [defaults, preset, Tree.isTable]
  exact fun entry inside => ⟨value entry inside, named entry.1 (List.mem_map_of_mem inside)⟩

theorem distinct_defaults : (defaults.map (·.1)).Nodup := by decide +kernel

theorem value?_default : ∀ s ∈ schema, ∀ entry ∈ s.entries, ∃ value,
    default.value? s.name entry.name = some value ∧
      entry.readFound (defaults.get? (keyOf s entry)) = .ok value := by
  simp only [schema, keysSection, corsSection, required, optional, List.forall_mem_cons, List.not_mem_nil,
    false_implies, implies_true, and_true]
  refine ⟨⟨?_, ?_, ?_⟩, ?_, ⟨?_, ?_, ?_, ?_⟩, ⟨?_, ?_, ?_, ?_⟩, ⟨?_, ?_, ?_, ?_, ?_, ?_, ?_⟩, ⟨?_, ?_⟩,
    ?_, ?_, ?_, ?_, ?_, ?_⟩
  all_goals exact ⟨_, rfl, rfl⟩

/-! ## The environment -/

/-- Whatever the environment says of a configuration, it says of settings. -/
def NamesSettings (environment : List (String × String)) : Prop :=
  ∀ variable_ ∈ environment, (entryOfVariable environmentStart variable_).isSome = true →
    ∃ s ∈ schema, ∃ entry ∈ s.entries, names s entry variable_.1 = true

/-- The text that the environment has for a setting: the last variable that names it counts. -/
def assigned? (environment : List (String × String)) (s : Section) (entry : Entry) : Option String :=
  (environment.reverse.find? fun variable_ => names s entry variable_.1).map (·.2)

/-- A variable names a setting of the section. -/
def touched (environment : List (String × String)) (s : Section) : Bool :=
  s.entries.any fun entry => (assigned? environment s entry).isSome

section Environment

variable {environment : List (String × String)} (named : NamesSettings environment)
include named

theorem plain_environment : Plain (ofEnvironment environmentStart environment) := by
  intro entry inside
  obtain ⟨⟨name, text⟩, member, said⟩ := Config.mem_ofEnvironment _ _ _ inside
  obtain ⟨s, known, item, itemMember, same⟩ := named _ member (said ▸ rfl)
  rw [entryOfVariable_named s known item itemMember name text same] at said
  cases said
  exact ⟨rfl, s, known, item, itemMember, rfl⟩

theorem any_entryOfVariable (s : Section) (known : s ∈ schema) (entry : Entry) (member : entry ∈ s.entries)
    (variable_ : String × String) (inside : variable_ ∈ environment) :
    (entryOfVariable environmentStart variable_).any (·.1 == keyOf s entry) = names s entry variable_.1 := by
  cases spoken : names s entry variable_.1 with
  | true =>
      rw [entryOfVariable_named s known entry member _ variable_.2 spoken]
      exact beq_self_eq_true _
  | false =>
      cases found : entryOfVariable environmentStart variable_ with
      | none => rfl
      | some said =>
          obtain ⟨other, otherKnown, item, itemMember, same⟩ := named _ inside (found ▸ rfl)
          rw [entryOfVariable_named other otherKnown item itemMember _ variable_.2 same] at found
          cases found
          refine beq_eq_false_iff_ne.mpr fun key => ?_
          obtain ⟨part, name⟩ := eq_of_keyOf other otherKnown item itemMember s known entry member key
          rw [names, part, name] at same
          cases spoken.symm.trans same

theorem get?_environment (s : Section) (known : s ∈ schema) (entry : Entry) (member : entry ∈ s.entries) :
    (ofEnvironment environmentStart environment).get? (keyOf s entry) =
      (assigned? environment s entry).map ofVariable := by
  have same : environment.reverse.find? (fun variable_ =>
      (entryOfVariable environmentStart variable_).any (·.1 == keyOf s entry)) =
        environment.reverse.find? fun variable_ => names s entry variable_.1 :=
    List.find?_congr fun variable_ inside =>
      any_entryOfVariable named s known entry member variable_ (List.mem_reverse.mp inside)
  rw [Config.get?_ofEnvironment, List.find?_filterMap, same, assigned?]
  cases found : environment.reverse.find? fun variable_ => names s entry variable_.1 with
  | none => rfl
  | some variable_ =>
      have spoken := List.find?_some found
      simp only [Option.bind_some, Option.map_some]
      rw [entryOfVariable_named s known entry member _ variable_.2 spoken]
      rfl

theorem touched_iff (s : Section) (known : s ∈ schema) :
    touched environment s = true ↔
      ∃ entry ∈ ofEnvironment environmentStart environment, ∃ name, Writes s.name name entry := by
  have plain := plain_environment named
  constructor
  · intro touches
    obtain ⟨item, member, found⟩ := List.any_eq_true.mp touches
    obtain ⟨text, assigned⟩ := Option.isSome_iff_exists.mp found
    have said := get?_environment named s known item member
    rw [assigned] at said
    have inside := Entries.mem_of_get? _ _ _ said
    exact ⟨_, inside, item.name, (plain.writes_iff s known item member _ inside).mpr rfl⟩
  · rintro ⟨entry, inside, name, writes⟩
    obtain ⟨value, other, otherKnown, item, member, key⟩ := plain entry inside
    have path := path_keyOf other otherKnown item member
    rw [← key] at path
    obtain ⟨part, -⟩ := writes.unique ⟨path, value⟩
    cases eq_of_sectionName s known other otherKnown part
    refine List.any_eq_true.mpr ⟨item, member, ?_⟩
    cases assigned : assigned? environment s item with
    | some text => rfl
    | none =>
        have said := get?_environment named s known item member
        rw [assigned] at said
        exact absurd key ((Entries.get?_eq_none_iff _ _).mp said entry inside)

end Environment

/-! ## The file -/

/-- The section as the file has it. -/
def alone (file : Entries) (s : Section) : Option Tree := (Tree.empty.laySource file).entries.get? s.name

/-- What the file says on a setting. A table that holds nothing says nothing, and a section that is written as
the list of its values is gone once a variable names one of its settings. -/
def said? (environment : List (String × String)) (file : Entries) (s : Section) (entry : Entry) : Option Tree :=
  let found := if touched environment s then within entry.name (alone file s) else s.part? entry (alone file s)
  found.filter fun tree => !tree.isHollow

theorem alone_eq (file : Entries) (s : Section) : alone file s = standing s.name file none :=
  Tree.get?_laySource s.name file Tree.empty

theorem said?_table (environment : List (String × String)) (file : Entries) (s : Section) (entry : Entry)
    (table_ : ∀ tree, alone file s = some tree → tree.isTable = true) :
    said? environment file s entry = (within entry.name (alone file s)).filter fun tree => !tree.isHollow := by
  unfold said?
  rw [s.part?_table entry _ table_, ite_self]

theorem said?_silent (environment : List (String × String)) (file : Entries) (s : Section) (entry : Entry)
    (silent : ∀ item ∈ file, ¬ Bears s.name entry.name item) : said? environment file s entry = none := by
  have table_ : ∀ tree, alone file s = some tree → tree.isTable = true := by
    rw [alone_eq]
    exact Tree.isTable_kept s.name file (fun item inside replaces => silent item inside (.replaces item replaces))
      none nofun
  rw [said?_table _ _ _ _ table_, alone_eq, Tree.within_standing_silent file silent]
  rfl

theorem said?_last (environment : List (String × String)) (file earlier later : Entries) (s : Section)
    (entry : Entry) (item : String × Tree) (tree : Tree) (parts : file = earlier ++ item :: later)
    (gives : Gives s.name entry.name item tree) (silent : ∀ other ∈ later, ¬ Bears s.name entry.name other) :
    said? environment file s entry = some tree := by
  have table_ : ∀ tree, alone file s = some tree → tree.isTable = true := by
    rw [alone_eq, parts, Tree.standing_append, Tree.standing_cons]
    refine Tree.isTable_kept s.name later (fun other inside replaces => ?_) _
      (Tree.isTable_after_gives item tree gives _)
    exact silent other inside (.replaces other replaces)
  rw [said?_table _ _ _ _ table_, alone_eq, parts,
    Tree.within_standing_last earlier later item tree gives silent, Option.filter_some, if_pos]
  simpa using Tree.isHollow_of_value tree gives.value

/-! ## The file and the environment -/

/-- The section as the file and the environment have it. -/
def joint (environment : List (String × String)) (file : Entries) (s : Section) : Option Tree :=
  standing s.name (ofEnvironment environmentStart environment) (alone file s)

theorem get?_said (environment : List (String × String)) (file : Entries) (s : Section) :
    (said file environment).entries.get? s.name = joint environment file s :=
  Tree.get?_laySource s.name _ _

theorem tidy_said (environment : List (String × String)) (file : Entries) : Tree.Tidy (said file environment) :=
  Tree.tidy_laySource _ _ (Tree.tidy_laySource _ _ Tree.tidy_empty)

theorem tidy_joint (environment : List (String × String)) (file : Entries) (s : Section) (tree : Tree)
    (found : joint environment file s = some tree) : Tree.Tidy tree :=
  (tidy_said environment file).found s.name tree ((get?_said environment file s).trans found)

section Joint

variable {environment : List (String × String)} (named : NamesSettings environment) (file : Entries)
  (s : Section) (known : s ∈ schema)
include named known

theorem within_joint (entry : Entry) (member : entry ∈ s.entries) :
    within entry.name (joint environment file s) =
      ((assigned? environment s entry).map ofVariable).or (within entry.name (alone file s)) := by
  rw [joint, (plain_environment named).within_standing (Config.nodup_ofEnvironment _ _) s known entry member,
    get?_environment named s known entry member]

theorem isTable_joint (touches : touched environment s = true) (tree : Tree)
    (found : joint environment file s = some tree) : tree.isTable = true :=
  Tree.isTable_standing s.name _ (plain_environment named).writes _
    (.inr ((touched_iff named s known).mp touches)) tree found

theorem isSome_joint (touches : touched environment s = true) : (joint environment file s).isSome = true := by
  obtain ⟨entry, inside, name, writes⟩ := (touched_iff named s known).mp touches
  exact Tree.isSome_standing s.name _ _ (.inr ⟨entry, inside, _, writes.leads⟩)

theorem joint_untouched (untouched : touched environment s = false) :
    joint environment file s = alone file s := by
  apply Tree.standing_untouched s.name _ (plain_environment named).writes
  intro entry inside name writes
  cases untouched.symm.trans ((touched_iff named s known).mpr ⟨entry, inside, name, writes⟩)

/-- What the environment does not assign is in both together what the file says. -/
theorem said?_joint (entry : Entry) (member : entry ∈ s.entries)
    (unassigned : assigned? environment s entry = none) :
    said? environment file s entry =
      (s.part? entry (joint environment file s)).filter fun tree => !tree.isHollow := by
  unfold said?
  cases touches : touched environment s with
  | false => rw [joint_untouched named file s known touches, if_neg Bool.false_ne_true]
  | true =>
      rw [s.part?_table entry _ (isTable_joint named file s known touches),
        within_joint named file s known entry member, unassigned]
      rfl

end Joint

/-! ## All layers -/

theorem within_defaults (s : Section) (known : s ∈ schema) (entry : Entry) (member : entry ∈ s.entries) :
    within entry.name (standing s.name defaults none) = defaults.get? (keyOf s entry) := by
  rw [plain_defaults.within_standing distinct_defaults s known entry member]
  exact Option.or_none

theorem isTable_defaults (s : Section) :
    ∀ tree, standing s.name defaults none = some tree → tree.isTable = true :=
  Tree.isTable_standing s.name defaults plain_defaults.writes none (.inl nofun)

theorem value_of_default (key : String) (tree : Tree) (found : defaults.get? key = some tree) :
    tree.isTable = false :=
  (plain_defaults _ (Entries.mem_of_get? _ _ _ found)).1

/-- What stands for a section in the end. -/
def slot (environment : List (String × String)) (file : Entries) (s : Section) : Option Tree :=
  laidOver (standing s.name defaults none) (joint environment file s)

theorem get?_layers (environment : List (String × String)) (file : Entries) (s : Section) :
    (layers file environment).entries.get? s.name = slot environment file s := by
  unfold layers
  rw [Tree.get?_layAll s.name _ (tidy_said environment file).distinct, Tree.get?_laySource, get?_said]
  rfl

section Slot

variable (environment : List (String × String)) (file : Entries) (s : Section)
  (table_ : ∀ tree, joint environment file s = some tree → tree.isTable = true)
include table_

theorem isTable_slot : ∀ tree, slot environment file s = some tree → tree.isTable = true :=
  Tree.isTable_laidOver _ _ (isTable_defaults s) table_

theorem part?_slot (known : s ∈ schema) (entry : Entry) (member : entry ∈ s.entries) :
    s.part? entry (slot environment file s) =
      laidOver (defaults.get? (keyOf s entry)) (within entry.name (joint environment file s)) := by
  rw [s.part?_table entry _ (isTable_slot environment file s table_), slot, Tree.within_laidOver,
    within_defaults s known entry member]
  exact fun tree found => ⟨table_ tree found, tidy_joint environment file s tree found⟩

end Slot

end AccessGate.Settings
