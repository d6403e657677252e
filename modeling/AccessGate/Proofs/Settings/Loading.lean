import AccessGate.Proofs.Config.Laying
import AccessGate.Proofs.Settings.FullRecord

/-!
Loaded settings, one at a time: each is read from what stands under its names once all sources are laid,
and nothing else of them matters.
-/

namespace AccessGate.Settings

open Json
open Config (Tree)

/-! ## Sections -/

/-- What concerns a setting in what stands for its section. -/
def Section.part? (s : Section) (entry : Entry) : Option Tree → Option Tree
  | some (.list _ items) => items[s.entries.findIdx (·.name == entry.name)]?
  | found => Tree.within entry.name found

theorem Section.part?_within (s : Section) (entry : Entry) (found : Option Tree)
    (listless : ∀ origin items, found ≠ some (.list origin items)) :
    s.part? entry found = Tree.within entry.name found := by
  cases found with
  | none => rfl
  | some tree =>
      cases tree with
      | table origin entries => rfl
      | leaf origin scalar => rfl
      | list origin items => exact absurd rfl (listless origin items)

theorem Section.part?_table (s : Section) (entry : Entry) (found : Option Tree)
    (table_ : ∀ tree, found = some tree → tree.isTable = true) :
    s.part? entry found = Tree.within entry.name found := by
  refine s.part?_within entry found fun origin items same => ?_
  cases table_ _ same

theorem distinct_sections : (schema.map Section.name).Nodup := by decide

theorem distinct_entries : ∀ s ∈ schema, (s.entries.map Entry.name).Nodup := by decide

theorem Entry.missing_absent (entry : Entry) (value : Value) (absent : entry.absent = some value) :
    entry.missing = .ok value := by
  unfold missing
  rw [absent]

-- By induction on the reading: the first setting has the first item, and behind it both lists go on.
theorem Listed.found {entries : List Entry} {trees : List Tree} {members : Members}
    (listed : Listed entries trees members) (distinct : (entries.map Entry.name).Nodup) :
    ∀ entry ∈ entries, ∃ value, members.get? entry.name = some value ∧
      entry.readFound trees[entries.findIdx (·.name == entry.name)]? = .ok value ∧
      (trees[entries.findIdx (·.name == entry.name)]? = none → entry.absent = some value) := by
  induction listed with
  | done trees => exact fun entry inside => absurd inside List.not_mem_nil
  | item first rest tree trees value members read others ih =>
      obtain ⟨fresh, distinct⟩ := List.nodup_cons.mp distinct
      refine List.forall_mem_cons.mpr ⟨⟨value, if_pos rfl, ?_⟩, fun entry later => ?_⟩
      · simpa [List.findIdx_cons, Entry.readFound] using read
      · have other : first.name ≠ entry.name := fun same => fresh (same ▸ List.mem_map_of_mem later)
        obtain ⟨found, told, known⟩ := ih distinct entry later
        refine ⟨found, (if_neg other).trans told, ?_⟩
        have apart : (first.name == entry.name) = false := beq_eq_false_iff_ne.mpr other
        rwa [List.findIdx_cons, apart]
  | absent first rest value members preset others ih =>
      obtain ⟨fresh, distinct⟩ := List.nodup_cons.mp distinct
      refine List.forall_mem_cons.mpr ⟨⟨value, if_pos rfl, ?_, fun _ => preset⟩, fun entry later => ?_⟩
      · exact first.missing_absent value preset
      · have other : first.name ≠ entry.name := fun same => fresh (same ▸ List.mem_map_of_mem later)
        obtain ⟨found, told, known⟩ := ih distinct entry later
        exact ⟨found, (if_neg other).trans told, known⟩

/-- What is read of a setting from what stands for its section. What a list lacks is never null by that alone. -/
structure Section.Reads (s : Section) (found : Option Tree) (entry : Entry) (value : Value) : Prop where
  read : entry.readFound (s.part? entry found) = .ok value
  lacking : ∀ origin items, found = some (.list origin items) → s.part? entry found = none →
    entry.absent = some value

/-- What is read of a section: under each name the value that is read of what concerns the setting. -/
structure Section.Read (s : Section) (found : Option Tree) (members : Members) : Prop where
  filled : Filled s.entries members
  each : ∀ entry ∈ s.entries, ∃ value, members.get? entry.name = some value ∧ s.Reads found entry value

theorem absent_schema : ∀ s ∈ schema, s.mayBeAbsent = true → ∀ entry ∈ s.entries, entry.absent.isSome = true := by
  decide

theorem filled_of_read (readOf : Entry → Option Tree) (entries : List Entry) (members : Members)
    (sound : ∀ entry ∈ entries, entry.Sound)
    (each : List.Forall₂ (fun entry member => member.1 = entry.name ∧
      entry.readFound (readOf entry) = .ok member.2) entries members) : Filled entries members :=
  ((List.forall₂_and_left _ _).mpr ⟨sound, each⟩).imp fun entry _ read =>
    ⟨read.2.1, entry.readFound_has read.1 _ _ read.2.2⟩

theorem Section.missing_read (s : Section) (inside : s ∈ schema) (value : Value) (read : s.missing = .ok value) :
    ∃ members, value = .object members ∧ s.Read none members := by
  unfold missing at read
  split at read
  case isFalse => cases read
  rename_i mayBeAbsent
  cases read
  have each : List.Forall₂ (fun entry member => member.1 = entry.name ∧ entry.missing = .ok member.2) s.entries
      (s.entries.map fun entry => (entry.name, entry.absent.getD .null)) := by
    refine List.forall₂_map_right_iff.mpr (List.forall₂_same.mpr fun entry member => ⟨rfl, ?_⟩)
    obtain ⟨value, absent⟩ := Option.isSome_iff_exists.mp (absent_schema s inside mayBeAbsent entry member)
    simp only [absent, Option.getD_some]
    exact entry.missing_absent value absent
  refine ⟨_, rfl, filled_of_read (fun _ => none) _ _ (sound_schema s inside) each, fun entry member => ?_⟩
  obtain ⟨value, told, missing⟩ := get?_of_forall₂ _ (fun entry value => entry.missing = .ok value) _ _ each
    (distinct_entries s inside) entry member
  exact ⟨value, told, missing, nofun⟩

theorem Section.read_of_readFound (s : Section) (inside : s ∈ schema) (found : Option Tree) (value : Value)
    (read : s.readFound found = .ok value) : ∃ members, value = .object members ∧ s.Read found members := by
  match found with
  | none => exact s.missing_read inside value read
  | some tree =>
      obtain ⟨members, converted, rfl⟩ := map_ok _ _ _ read
      refine ⟨members, rfl, ?_⟩
      cases tree with
      | leaf origin scalar => cases converted
      | list origin items =>
          have listed := listed_of_convertItems _ _ _ _ _ converted
          refine ⟨listed.filled (sound_schema s inside), fun entry member => ?_⟩
          obtain ⟨value, told, read, lacking⟩ := listed.found (distinct_entries s inside) entry member
          exact ⟨value, told, read, fun _ _ _ => lacking⟩
      | table origin entries =>
          have each := (convertEntries_ok_iff entries s.entries members).mp converted
          let found (entry : Entry) := Config.Entries.get? entry.name entries
          refine ⟨filled_of_read found _ _ (sound_schema s inside) each, fun entry member => ?_⟩
          obtain ⟨value, told, read⟩ := get?_of_forall₂ _
            (fun entry value => entry.readFound (found entry) = .ok value) _ _ each (distinct_entries s inside)
            entry member
          exact ⟨value, told, read, nofun⟩

theorem Section.readFound_leaf (s : Section) (origin : Config.Origin) (scalar : Config.Scalar) (value : Value) :
    s.readFound (some (.leaf origin scalar)) ≠ .ok value := nofun

theorem forall₂_of_each (nameOf : α → String) (has : α → Value → Prop) (list : List α)
    (each : ∀ item ∈ list, ∃ value, has item value) :
    ∃ members : Members,
      List.Forall₂ (fun item member => member.1 = nameOf item ∧ has item member.2) list members := by
  induction list with
  | nil => exact ⟨[], .nil⟩
  | cons first rest ih =>
      obtain ⟨⟨value, here⟩, later⟩ := List.forall_mem_cons.mp each
      obtain ⟨members, others⟩ := ih later
      exact ⟨(nameOf first, value) :: members, .cons ⟨rfl, here⟩ others⟩

theorem Section.readFound_table (s : Section) (tree : Tree) (table_ : tree.isTable = true)
    (each : ∀ entry ∈ s.entries, ∃ value, entry.readFound (tree.entries.get? entry.name) = .ok value) :
    ∃ value, s.readFound (some tree) = .ok value := by
  cases tree with
  | leaf origin scalar => cases table_
  | list origin items => cases table_
  | table origin entries =>
      obtain ⟨members, all⟩ := forall₂_of_each Entry.name _ s.entries each
      have converted := (convertEntries_ok_iff entries s.entries members).mpr all
      refine ⟨.object members, ?_⟩
      change (convertEntries entries s.entries).map Value.object = _
      rw [converted]
      rfl

/-! ## The whole -/

section Settling

variable (file : Config.Entries) (environment : List (String × String)) (directory : String)

theorem settle_ok_iff (settings : Settings) :
    settle file environment directory = .ok settings ↔
      ∃ full, convertSections (layers file environment).entries schema = .ok full ∧
        settings = (ofMembers full).located directory := by
  change ((convertSections (layers file environment).entries schema).bind fun full => _) = _ ↔ _
  constructor
  · intro read
    obtain ⟨full, converted, same⟩ := bind_ok _ _ _ read
    cases same
    exact ⟨full, converted, rfl⟩
  · rintro ⟨full, converted, rfl⟩
    rw [converted]
    rfl

theorem exists_settle
    (each : ∀ s ∈ schema, ∃ value, s.readFound ((layers file environment).entries.get? s.name) = .ok value) :
    ∃ settings, settle file environment directory = .ok settings := by
  obtain ⟨full, all⟩ := forall₂_of_each Section.name _ schema each
  exact ⟨_, (settle_ok_iff file environment directory _).mpr ⟨full, (convertSections_ok_iff _ _ _).mpr all, rfl⟩⟩

end Settling

theorem fullRecord_of_converted (entries : Config.Entries) (full : Members)
    (converted : convertSections entries schema = .ok full) : FullRecord full := by
  have each := (convertSections_ok_iff entries schema full).mp converted
  refine ((List.forall₂_and_left schema full).mpr ⟨fun _ inside => inside, each⟩).imp ?_
  rintro s member ⟨inside, named, read⟩
  obtain ⟨members, same, known⟩ := s.read_of_readFound inside _ _ read
  exact ⟨named, members, known.filled, same⟩

theorem settle_each (file : Config.Entries) (environment : List (String × String)) (directory : String)
    (settings : Settings) (settled : settle file environment directory = .ok settings) (s : Section)
    (inside : s ∈ schema) :
    (∃ value, s.readFound ((layers file environment).entries.get? s.name) = .ok value) ∧
      ∀ entry ∈ s.entries, ∃ value, s.Reads ((layers file environment).entries.get? s.name) entry value ∧
        settings.value? s.name entry.name = some (placed directory s.name entry.name value) := by
  obtain ⟨full, converted, rfl⟩ := (settle_ok_iff file environment directory settings).mp settled
  obtain ⟨value, named, read⟩ := get?_of_forall₂ Section.name
    (fun s value => s.readFound ((layers file environment).entries.get? s.name) = .ok value) schema full
    ((convertSections_ok_iff _ _ _).mp converted) distinct_sections s inside
  obtain ⟨members, rfl, known⟩ := s.read_of_readFound inside _ _ read
  refine ⟨⟨_, read⟩, fun entry member => ?_⟩
  obtain ⟨value, told, said⟩ := known.each entry member
  refine ⟨value, said, ?_⟩
  rw [value?_located, value?_ofMembers full (fullRecord_of_converted _ _ converted), named]
  exact congrArg (Option.map _) told

end AccessGate.Settings
