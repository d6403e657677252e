import AccessGate.Proofs.Settings.Layers
import AccessGate.Proofs.Utf8

/-!
Settings from their layers. What the environment assigns to a setting comes first, then what the file says on
it, then its default; one more variable changes one setting. Only a section that the file has as the list of its
values is lost to the first variable that names one of its settings.
-/

namespace AccessGate.Settings

open Json (Value bind_ok map_ok)
open Config (Tree Entries)
open Config.Tree (within laidOver Tidy Bears Gives)

/-- The value of a setting, by the layer it comes from. -/
inductive Settled (environment : List (String × String)) (file : Entries) (s : Section) (entry : Entry) :
    Value → Prop where
  | assigned (text : String) (value : Value) (last : assigned? environment s entry = some text)
      (read : entry.convert (ofVariable text) = .ok value) : Settled environment file s entry value
  | written (tree : Tree) (value : Value) (unassigned : assigned? environment s entry = none)
      (said : said? environment file s entry = some tree) (read : entry.convert tree = .ok value) :
      Settled environment file s entry value
  | preset (value : Value) (unassigned : assigned? environment s entry = none)
      (unsaid : said? environment file s entry = none)
      (known : default.value? s.name entry.name = some value) : Settled environment file s entry value

/-! ## Tables in the place of values -/

theorem choice_of_names (title : String) (names : List String) (origin other : Config.Origin)
    (entries others : Entries) (same : entries.map (·.1) = others.map (·.1)) :
    Tree.choice title names (.table origin entries) = Tree.choice title names (.table other others) := by
  match entries, others, same with
  | [], [], _ => rfl
  | [(name, _)], [(_, _)], same =>
      obtain ⟨rfl, -⟩ := List.cons.inj same
      rfl
  | _ :: _ :: _, _ :: _ :: _, _ => rfl

/-- Of a table only a choice can be read, and that from its names. -/
theorem Entry.convert_table (entry : Entry) (one other : Tree) (table_ : one.isTable = true)
    (also : other.isTable = true) (names : one.entries.map (·.1) = other.entries.map (·.1)) (value : Value)
    (read : entry.convert one = .ok value) : entry.convert other = .ok value := by
  obtain ⟨name, kind, isOptional, absent⟩ := entry
  match one, other, table_, also with
  | .table origin entries, .table origin' others, _, _ =>
      have plain : ∀ origin entries, convert ⟨name, kind, isOptional, absent⟩ (.table origin entries) =
          kind.convert (.table origin entries) := by
        intro origin entries
        cases isOptional <;> rfl
      rw [plain] at read ⊢
      unfold Kind.convert at read ⊢
      split at read
      case h_7 title names =>
        simpa only [choice_of_names title names origin origin' entries others ‹_›] using read
      all_goals
        obtain ⟨inner, found, -⟩ := map_ok _ _ _ read
        cases found

theorem Entry.solid_of_convert (entry : Entry) (tree : Tree) (value : Value)
    (read : entry.convert tree = .ok value) : tree.isHollow = false := by
  match tree with
  | .leaf _ _ => rfl
  | .list _ _ => rfl
  | .table _ (_ :: _) => rfl
  | .table origin [] =>
      obtain ⟨name, kind, isOptional, absent⟩ := entry
      unfold convert Kind.convert at read
      split at read
      · rename_i same
        cases same
      · split at read
        all_goals
          obtain ⟨inner, found, -⟩ := map_ok _ _ _ read
          cases found

theorem Entry.readFound_laidOver (entry : Entry) (lower : Option Tree)
    (bare : ∀ tree, lower = some tree → tree.isTable = false) (tree : Tree) (tidy : Tidy tree) (value : Value)
    (read : entry.readFound (laidOver lower (some tree)) = .ok value) :
    tree.isHollow = true ∧ entry.readFound lower = .ok value ∨
      tree.isHollow = false ∧ entry.convert tree = .ok value := by
  match tree with
  | .leaf origin scalar => exact .inr ⟨rfl, by rwa [Tree.laidOver_value lower _ rfl] at read⟩
  | .list origin items => exact .inr ⟨rfl, by rwa [Tree.laidOver_value lower _ rfl] at read⟩
  | .table origin [] =>
      rw [Tree.laidOver_hollow lower _ rfl] at read
      cases lower with
      | some below => exact .inl ⟨rfl, read⟩
      | none => cases entry.solid_of_convert Tree.empty value read
  | .table origin (first :: rest) =>
      obtain ⟨laid, found, table_, names⟩ := Tree.names_laidOver lower bare origin first rest tidy
      rw [found] at read
      exact .inr ⟨rfl, entry.convert_table laid (.table origin (first :: rest)) table_ rfl names value read⟩

theorem preset_of_read (s : Section) (known : s ∈ schema) (entry : Entry) (member : entry ∈ s.entries)
    (value : Value) (read : entry.readFound (defaults.get? (keyOf s entry)) = .ok value) :
    default.value? s.name entry.name = some value := by
  obtain ⟨own, told, same⟩ := value?_default s known entry member
  cases same.symm.trans read
  exact told

theorem preset_of_absent : ∀ s ∈ schema, ∀ entry ∈ s.entries, ∀ value, entry.absent = some value →
    default.value? s.name entry.name = some value := by
  have same : ∀ s ∈ schema, ∀ entry ∈ s.entries,
      entry.absent = none ∨ entry.absent = default.value? s.name entry.name := by
    simp only [schema, keysSection, corsSection, required, optional, List.forall_mem_cons, List.not_mem_nil,
      false_implies, implies_true, and_true, true_and, true_or]
    exact ⟨.inr rfl, .inr rfl, .inr rfl, .inr rfl, .inr rfl, .inr rfl⟩
  intro s known entry member value absent
  rcases same s known entry member with none_ | known
  · cases none_.symm.trans absent
  · exact known.symm.trans absent

/-! ## Each setting by itself -/

theorem touched_of_assigned (environment : List (String × String)) (s : Section) (entry : Entry)
    (member : entry ∈ s.entries) (text : String) (assigned : assigned? environment s entry = some text) :
    touched environment s = true := List.any_eq_true.mpr ⟨entry, member, assigned ▸ rfl⟩

theorem shape_of_whole (environment : List (String × String)) (file : Entries) (s : Section) (value : Value)
    (whole : s.readFound (slot environment file s) = .ok value) :
    (∀ tree, joint environment file s = some tree → tree.isTable = true) ∨
      ∃ origin items, joint environment file s = some (.list origin items) := by
  unfold slot at whole
  cases found : joint environment file s with
  | none => exact .inl nofun
  | some tree =>
      rw [found] at whole
      cases tree with
      | table origin entries => exact .inl fun tree same => Option.some.inj same ▸ rfl
      | list origin items => exact .inr ⟨origin, items, rfl⟩
      | leaf origin scalar =>
          rw [Tree.laidOver_value _ _ rfl] at whole
          exact absurd whole (s.readFound_leaf origin scalar value)

section Ranks

variable {environment : List (String × String)} (named : NamesSettings environment) (file : Entries)
  (s : Section) (known : s ∈ schema) (entry : Entry) (member : entry ∈ s.entries)
include named known member

/-- A section that is a table, if it is anything, has its own values over the defaults. -/
theorem settled_of_table (table_ : ∀ tree, joint environment file s = some tree → tree.isTable = true)
    (value : Value) (read : entry.readFound (s.part? entry (slot environment file s)) = .ok value) :
    Settled environment file s entry value := by
  rw [part?_slot environment file s table_ known entry member] at read
  cases assigned : assigned? environment s entry with
  | some text =>
      rw [within_joint named file s known entry member, assigned, Option.map_some, Option.some_or,
        Tree.laidOver_value _ _ rfl] at read
      exact .assigned text value assigned read
  | none =>
      have said := said?_joint named file s known entry member assigned
      rw [s.part?_table entry _ table_] at said
      cases found : within entry.name (joint environment file s) with
      | none =>
          rw [found] at said read
          exact .preset value assigned said (preset_of_read s known entry member value read)
      | some tree =>
          obtain ⟨whole, inside, here⟩ := Option.bind_eq_some_iff.mp found
          have tidy := (tidy_joint environment file s whole inside).found entry.name tree here
          rw [found] at said read
          rcases entry.readFound_laidOver _ (value_of_default (keyOf s entry)) tree tidy value read with
            ⟨hollow, below⟩ | ⟨solid, converted⟩
          · exact .preset value assigned (by simp [said, hollow]) (preset_of_read s known entry member value below)
          · exact .written tree value assigned (by simp [said, solid]) converted

/-- A section that is a list has its items, and the defaults for what it lacks. -/
theorem settled_of_list (origin : Config.Origin) (items : List Tree)
    (list : joint environment file s = some (.list origin items)) (value : Value)
    (reads : s.Reads (slot environment file s) entry value) : Settled environment file s entry value := by
  have slot_ : slot environment file s = some (.list origin items) := by
    rw [slot, list, Tree.laidOver_value _ _ rfl]
  rw [slot_] at reads
  have unassigned : assigned? environment s entry = none := by
    cases assigned : assigned? environment s entry with
    | none => rfl
    | some text =>
        have touches := touched_of_assigned environment s entry member text assigned
        cases isTable_joint named file s known touches _ list
  have said := said?_joint named file s known entry member unassigned
  rw [list] at said
  have read := reads.read
  cases found : s.part? entry (some (.list origin items)) with
  | none =>
      rw [found] at said
      exact .preset value unassigned said
        (preset_of_absent s known entry member value (reads.lacking origin items rfl found))
  | some tree =>
      rw [found] at said read
      have solid := entry.solid_of_convert tree value read
      exact .written tree value unassigned (by simp [said, solid]) read

end Ranks

/-! ## One more variable -/

/-- One more variable among others, which names a setting that no later one names. -/
structure Added (before after : List (String × String)) (s : Section) (entry : Entry) (name : String) : Prop where
  known : s ∈ schema
  member : entry ∈ s.entries
  spoken : names s entry name = true
  last : ∀ later ∈ after, names s entry later.1 = false

namespace Added

variable {before after : List (String × String)} {s : Section} {entry : Entry} {name : String} (text : String)
  (added : Added before after s entry name)
include added

theorem namesSettings (named : NamesSettings (before ++ after)) :
    NamesSettings (before ++ (name, text) :: after) := by
  intro variable_ inside starts
  rcases List.mem_append.mp inside with early | late
  · exact named variable_ (List.mem_append_left _ early) starts
  · rcases List.mem_cons.mp late with rfl | late
    · exact ⟨s, added.known, entry, added.member, added.spoken⟩
    · exact named variable_ (List.mem_append_right _ late) starts

theorem assigned?_eq (part : Section) (known : part ∈ schema) (item : Entry) (member : item ∈ part.entries) :
    assigned? (before ++ (name, text) :: after) part item =
      if part.name = s.name ∧ item.name = entry.name then some text
      else assigned? (before ++ after) part item := by
  simp only [assigned?, List.reverse_append, List.reverse_cons, List.find?_append, List.find?_singleton]
  by_cases same : part.name = s.name ∧ item.name = entry.name
  · have alike := names_congr part s item entry same.1 same.2
    have none_ : after.reverse.find? (fun variable_ => names s entry variable_.1) = none := by
      refine List.find?_eq_none.mpr fun later inside => ?_
      simp [added.last later (List.mem_reverse.mp inside)]
    simp [same, alike, none_, added.spoken]
  · have other : names part item name = false := by
      refine Bool.eq_false_iff.mpr fun also => same ?_
      exact names_unique part known item member s added.known entry added.member name also added.spoken
    simp [same, other]

theorem touched_iff (part : Section) (known : part ∈ schema) :
    touched (before ++ (name, text) :: after) part = true ↔
      part = s ∨ touched (before ++ after) part = true := by
  constructor
  · intro touches
    obtain ⟨item, member, found⟩ := List.any_eq_true.mp touches
    rw [added.assigned?_eq text part known item member] at found
    split at found
    · exact .inl (eq_of_sectionName part known s added.known (And.left ‹_›))
    · exact .inr (List.any_eq_true.mpr ⟨item, member, found⟩)
  · rintro (rfl | touches)
    · refine List.any_eq_true.mpr ⟨entry, added.member, ?_⟩
      rw [added.assigned?_eq text part known entry added.member, if_pos ⟨rfl, rfl⟩]
      rfl
    · obtain ⟨item, member, found⟩ := List.any_eq_true.mp touches
      refine List.any_eq_true.mpr ⟨item, member, ?_⟩
      rw [added.assigned?_eq text part known item member]
      split
      · rfl
      · exact found

theorem untouched (part : Section) (known : part ∈ schema)
    (untouched : touched (before ++ (name, text) :: after) part = false) :
    part ≠ s ∧ touched (before ++ after) part = false := by
  have nothing := (added.touched_iff text part known).not.mp (by simp [untouched])
  exact ⟨fun same => nothing (.inl same), Bool.eq_false_iff.mpr fun touches => nothing (.inr touches)⟩

variable (named : NamesSettings (before ++ after)) (file : Entries) (part : Section) (known : part ∈ schema)
include named known

theorem slot_untouched (untouched : touched (before ++ (name, text) :: after) part = false) :
    slot (before ++ (name, text) :: after) file part = slot (before ++ after) file part := by
  have more := added.namesSettings text named
  obtain ⟨-, before_⟩ := added.untouched text part known untouched
  rw [slot, slot, joint_untouched more file part known untouched, joint_untouched named file part known before_]

variable (table_ : ∀ tree, joint (before ++ after) file s = some tree → tree.isTable = true)
include table_

theorem isTable_joint (touches : touched (before ++ (name, text) :: after) part = true) :
    ∀ tree, joint (before ++ after) file part = some tree → tree.isTable = true := by
  rcases (added.touched_iff text part known).mp touches with rfl | already
  · exact table_
  · exact Settings.isTable_joint named file part known already

theorem part?_eq (item : Entry) (member : item ∈ part.entries) :
    part.part? item (slot (before ++ (name, text) :: after) file part) =
      if part.name = s.name ∧ item.name = entry.name then some (ofVariable text)
      else part.part? item (slot (before ++ after) file part) := by
  have more := added.namesSettings text named
  cases touches : touched (before ++ (name, text) :: after) part with
  | true =>
      rw [part?_slot _ file part (Settings.isTable_joint more file part known touches) known item member,
        within_joint more file part known item member, added.assigned?_eq text part known item member]
      split
      · exact Tree.laidOver_value _ _ rfl
      · have whole := added.isTable_joint text named file part known table_ touches
        rw [part?_slot _ file part whole known item member, within_joint named file part known item member]
  | false =>
      obtain ⟨other, -⟩ := added.untouched text part known touches
      rw [added.slot_untouched text named file part known touches, if_neg]
      exact fun same => other (eq_of_sectionName part known s added.known same.1)

theorem readFound_ok (value : Value) (read : entry.convert (ofVariable text) = .ok value)
    (whole : ∃ value, part.readFound (slot (before ++ after) file part) = .ok value)
    (each : ∀ item ∈ part.entries, ∃ value,
      item.readFound (part.part? item (slot (before ++ after) file part)) = .ok value) :
    ∃ value, part.readFound (slot (before ++ (name, text) :: after) file part) = .ok value := by
  have more := added.namesSettings text named
  cases touches : touched (before ++ (name, text) :: after) part with
  | false => rwa [added.slot_untouched text named file part known touches]
  | true =>
      have tables := isTable_slot _ file part (Settings.isTable_joint more file part known touches)
      obtain ⟨upper, above⟩ := Option.isSome_iff_exists.mp (isSome_joint more file part known touches)
      obtain ⟨tree, found⟩ : ∃ tree, slot (before ++ (name, text) :: after) file part = some tree := by
        rw [slot, above]
        exact ⟨_, rfl⟩
      rw [found] at tables ⊢
      refine part.readFound_table tree (tables tree rfl) fun item member => ?_
      have same := added.part?_eq text named file part known table_ item member
      rw [found, part.part?_table item _ tables] at same
      change ∃ value, item.readFound (within item.name (some tree)) = .ok value
      rw [same]
      split
      · obtain ⟨rfl, rfl⟩ := eq_of_names part s known added.known item entry member added.member ‹_›
        exact ⟨value, read⟩
      · exact each item member

end Added

/-! ## Loading -/

theorem load_ok_iff (sources : Sources) (settings : Settings) :
    load sources = .ok settings ↔
      ∃ file, fileEntries sources = .ok file ∧
        settle file sources.environment sources.directory = .ok settings := by
  constructor
  · exact bind_ok _ _ _
  · rintro ⟨file, read, settled⟩
    unfold load
    rw [read]
    exact settled

section Settling

variable (file : Entries) (environment : List (String × String)) (directory : String)
  (named : NamesSettings environment) (settings : Settings)
  (settled : settle file environment directory = .ok settings)
include named settled

theorem settled_of_settle (s : Section) (known : s ∈ schema) (entry : Entry) (member : entry ∈ s.entries) :
    ∃ value, Settled environment file s entry value ∧
      settings.value? s.name entry.name = some (placed directory s.name entry.name value) := by
  obtain ⟨⟨whole, read⟩, each⟩ := settle_each file environment directory settings settled s known
  obtain ⟨value, reads, told⟩ := each entry member
  rw [get?_layers] at read reads
  refine ⟨value, ?_, told⟩
  rcases shape_of_whole environment file s whole read with table_ | ⟨origin, items, list⟩
  · exact settled_of_table named file s known entry member table_ value reads.read
  · exact settled_of_list named file s known entry member origin items list value reads

theorem value_of_last (s : Section) (known : s ∈ schema) (entry : Entry) (member : entry ∈ s.entries)
    (unassigned : assigned? environment s entry = none) (earlier later : Entries) (item : String × Tree)
    (tree : Tree) (parts : file = earlier ++ item :: later) (gives : Gives s.name entry.name item tree)
    (silent : ∀ other ∈ later, ¬ Bears s.name entry.name other) :
    ∃ value, entry.convert tree = .ok value ∧
      settings.value? s.name entry.name = some (placed directory s.name entry.name value) := by
  have said := said?_last environment file earlier later s entry item tree parts gives silent
  obtain ⟨value, layer, told⟩ :=
    settled_of_settle file environment directory named settings settled s known entry member
  refine ⟨value, ?_, told⟩
  cases layer with
  | assigned text _ last read => cases unassigned.symm.trans last
  | written found _ unassigned also read =>
      cases said.symm.trans also
      exact read
  | preset _ unassigned unsaid known => cases said.symm.trans unsaid

theorem value_of_silent (s : Section) (known : s ∈ schema) (entry : Entry) (member : entry ∈ s.entries)
    (unassigned : assigned? environment s entry = none)
    (silent : ∀ item ∈ file, ¬ Bears s.name entry.name item) :
    settings.value? s.name entry.name =
      (default.value? s.name entry.name).map (placed directory s.name entry.name) := by
  have unsaid := said?_silent environment file s entry silent
  obtain ⟨value, layer, told⟩ :=
    settled_of_settle file environment directory named settings settled s known entry member
  rw [told]
  cases layer with
  | assigned text _ last read => cases unassigned.symm.trans last
  | written found _ unassigned said read => cases unsaid.symm.trans said
  | preset _ unassigned unsaid known => rw [known, Option.map_some]

theorem table_of_tabled (s : Section) (known : s ∈ schema)
    (tabled : touched environment s = true ∨ ∀ origin items, alone file s ≠ some (.list origin items)) :
    ∀ tree, joint environment file s = some tree → tree.isTable = true := by
  by_cases touches : touched environment s = true
  · exact isTable_joint named file s known touches
  · obtain ⟨⟨whole, read⟩, -⟩ := settle_each file environment directory settings settled s known
    rw [get?_layers] at read
    refine (shape_of_whole environment file s whole read).resolve_right ?_
    rintro ⟨origin, items, list⟩
    rw [joint_untouched named file s known (Bool.eq_false_iff.mpr touches)] at list
    exact tabled.resolve_left touches origin items list

theorem settle_added (before after : List (String × String)) (parts : environment = before ++ after)
    (s : Section) (entry : Entry) (name text : String) (added : Added before after s entry name)
    (tabled : touched environment s = true ∨ ∀ origin items, alone file s ≠ some (.list origin items))
    (value : Value) (converted : entry.convert (ofVariable text) = .ok value) :
    ∃ other, settle file (before ++ (name, text) :: after) directory = .ok other ∧
      ∀ part ∈ schema, ∀ item ∈ part.entries, other.value? part.name item.name =
        if part.name = s.name ∧ item.name = entry.name
        then some (placed directory part.name item.name value)
        else settings.value? part.name item.name := by
  have table_ := table_of_tabled file environment directory named settings settled s added.known tabled
  subst parts
  have whole := settle_each file _ directory settings settled
  simp only [get?_layers] at whole
  obtain ⟨other, again⟩ := exists_settle file (before ++ (name, text) :: after) directory fun part known => by
    rw [get?_layers]
    refine added.readFound_ok text named file part known table_ value converted (whole part known).1 ?_
    intro item member
    obtain ⟨value, reads, -⟩ := (whole part known).2 item member
    exact ⟨value, reads.read⟩
  refine ⟨other, again, fun part known item member => ?_⟩
  obtain ⟨new, reads, told⟩ := (settle_each file _ directory other again part known).2 item member
  have said := reads.read
  rw [get?_layers, added.part?_eq text named file part known table_ item member] at said
  rw [told]
  split at said
  · rename_i names
    obtain ⟨rfl, rfl⟩ := eq_of_names part s known added.known item entry member added.member names
    cases converted.symm.trans said
    rw [if_pos names]
  · rename_i names
    obtain ⟨old, reads, before_⟩ := (whole part known).2 item member
    cases reads.read.symm.trans said
    rw [if_neg names, before_]

end Settling

theorem ofMembers_defaults :
    (convertSections (Tree.empty.laySource defaults).entries schema).toOption.map ofMembers = some default := by
  decide +kernel

theorem load_nothing (sources : Sources) (missing : sources.content = none)
    (silent : ∀ variable_ ∈ sources.environment,
      Config.entryOfVariable environmentStart variable_ = none) :
    load sources = .ok (default.located sources.directory) := by
  have read : fileEntries sources = .ok [] := by
    unfold fileEntries
    rw [missing]
  have nothing : Config.ofEnvironment environmentStart sources.environment = [] := by
    rw [Config.ofEnvironment_eq, List.filterMap_eq_nil_iff.mpr silent]
    rfl
  have laid : layers [] sources.environment = Tree.empty.laySource defaults := by
    unfold layers said
    rw [nothing, Tree.laySource_nil, Tree.laySource_nil]
    simp only [Tree.empty, Tree.entries, Tree.layAll]
  refine (load_ok_iff sources _).mpr ⟨[], read, (settle_ok_iff [] _ _ _).mpr ?_⟩
  rw [laid]
  have same := ofMembers_defaults
  cases converted : convertSections (Tree.empty.laySource defaults).entries schema with
  | error e =>
      rw [converted] at same
      cases same
  | ok full =>
      rw [converted] at same
      exact ⟨full, rfl, congrArg (located sources.directory) (Option.some.inj same).symm⟩

theorem joined_rooted (directory path : String) (rooted : directory.startsWith "/" = true) :
    (joined directory path).startsWith "/" = true := by
  unfold joined
  split
  · assumption
  · split
    all_goals
      rw [String.startsWith_string_iff] at rooted ⊢
      simp only [String.toList_append, List.append_assoc]
      exact rooted.trans (List.prefix_append _ _)

theorem path_rooted (file : Entries) (environment : List (String × String)) (directory : String)
    (settings : Settings) (settled : settle file environment directory = .ok settings)
    (rooted : directory.startsWith "/" = true) (path : String) (known : settings.rules.path = some path) :
    path.startsWith "/" = true := by
  obtain ⟨full, -, rfl⟩ := (settle_ok_iff file environment directory settings).mp settled
  obtain ⟨written, -, rfl⟩ := Option.map_eq_some_iff.mp known
  exact joined_rooted _ written rooted

/-- Settings that are loaded come from their layers, one by one: the environment, then the file, then the
defaults. What the file says is its last entry that bears on a setting, in whatever order the entries are laid,
and a setting that nothing bears on has its default. The path of the rule file is absolute. One more variable
changes the setting that it names and no other, unless it is the first for a section that the file has as a
list. -/
theorem settings_layered :
    (∀ sources settings, load sources = .ok settings ↔
      ∃ file, fileEntries sources = .ok file ∧
        settle file sources.environment sources.directory = .ok settings) ∧
    ∀ (file : Entries) (environment : List (String × String)) (directory : String) (settings : Settings),
      NamesSettings environment → settle file environment directory = .ok settings →
      (∀ s ∈ schema, ∀ entry ∈ s.entries,
        ∃ value, Settled environment file s entry value ∧
          settings.value? s.name entry.name = some (placed directory s.name entry.name value)) ∧
      (∀ other : Settings, (∀ s ∈ schema, ∀ entry ∈ s.entries,
          other.value? s.name entry.name = settings.value? s.name entry.name) → other = settings) ∧
      (∀ s ∈ schema, ∀ entry ∈ s.entries, assigned? environment s entry = none →
        (∀ earlier item later tree, file = earlier ++ item :: later → Gives s.name entry.name item tree →
          (∀ next ∈ later, ¬ Bears s.name entry.name next) →
          ∃ value, entry.convert tree = .ok value ∧
            settings.value? s.name entry.name = some (placed directory s.name entry.name value)) ∧
        ((∀ item ∈ file, ¬ Bears s.name entry.name item) →
          settings.value? s.name entry.name =
            (default.value? s.name entry.name).map (placed directory s.name entry.name))) ∧
      (directory.startsWith "/" = true →
        ∀ path, settings.rules.path = some path → path.startsWith "/" = true) ∧
      (∀ before after, environment = before ++ after →
        ∀ s entry name text, Added before after s entry name →
        (touched environment s = true ∨ ∀ origin items, alone file s ≠ some (.list origin items)) →
        ∀ value, entry.convert (ofVariable text) = .ok value →
        ∃ other, settle file (before ++ (name, text) :: after) directory = .ok other ∧
          ∀ part ∈ schema, ∀ item ∈ part.entries, other.value? part.name item.name =
            if part.name = s.name ∧ item.name = entry.name
            then some (placed directory part.name item.name value)
            else settings.value? part.name item.name) := by
  refine ⟨load_ok_iff, fun file environment directory settings named settled => ⟨?_, ?_, ?_, ?_, ?_⟩⟩
  · exact fun s known entry member =>
      settled_of_settle file environment directory named settings settled s known entry member
  · exact fun other same => eq_of_value? settings other same
  · intro s known entry member unassigned
    refine ⟨?_, ?_⟩
    · intro earlier item later tree parts gives silent
      exact value_of_last file environment directory named settings settled s known entry member unassigned earlier
        later item tree parts gives silent
    · exact value_of_silent file environment directory named settings settled s known entry member unassigned
  · exact path_rooted file environment directory settings settled
  · intro before after parts s entry name text added tabled value converted
    exact settle_added file environment directory named settings settled before after parts s entry name text added
      tabled value converted

/-- A file in JSON brings the entries of the members that are printed in it. -/
theorem fileEntries_printed (sources : Sources) (members : Json.Members) (exact_ : (Value.object members).Exact)
    (room : (Value.object members).depth ≤ Json.depthLimit)
    (content : sources.content = some (Utf8.encode (Value.object members).chars))
    (json : extension? sources.file = some "json") :
    fileEntries sources = .ok (Tree.ofJsonMembers (some (placeOf sources.file)) members) := by
  have parsed : parse? "json" (Value.object members).chars = some members := by
    rw [parse?, if_neg (by decide), (Json.parse_chars_iff _ exact_).mpr room]
    rfl
  have known : (extension? sources.file).filter ["toml", "json"].contains = some "json" := by
    rw [json]
    rfl
  simp only [fileEntries, content, known, Utf8.decode_encode, Option.bind_some, parsed]

/-- One section in part, and another one as the list of its values. -/
def writtenSections : Json.Members :=
  [("rules", .object [("store", .string "memory")]), ("cors", .array [.bool true])]

def listing : Sources where
  file := "config.json"
  content := some (Utf8.encode (Value.object writtenSections).chars)
  environment := [("PORTCULLIS__RULES__REFRESH_INTERVAL_SECS", "5")]
  directory := "/srv"

def listed : Entries :=
  [("rules", .table (some "config.json") [("store", .leaf (some "config.json") (.text "memory"))]),
   ("cors", .list (some "config.json") [.leaf (some "config.json") (.flag true)])]

theorem exact_writtenSections : (Value.object writtenSections).Exact := by
  refine .object _ (by decide) ?_
  simp only [writtenSections, List.forall_mem_cons, List.not_mem_nil, false_implies, implies_true, and_true]
  refine ⟨.object _ (by decide) ?_, .array _ ?_⟩
  · simp only [List.forall_mem_cons, List.not_mem_nil, false_implies, implies_true, and_true]
    exact .string "memory"
  · simp only [List.forall_mem_cons, List.not_mem_nil, false_implies, implies_true, and_true]
    exact .bool true

theorem fileEntries_listing : fileEntries listing = .ok listed := by
  have place : some (placeOf listing.file) = some "config.json" := by decide +kernel
  rw [fileEntries_printed listing writtenSections exact_writtenSections (by decide) rfl (by decide +kernel), place]
  rfl

set_option maxRecDepth 10000 in
theorem namesSettings_listing : NamesSettings listing.environment := by
  unfold NamesSettings
  decide +kernel

def asListed : Settings :=
  { default with
    rules := ⟨.memory, some "/srv/rules.json", none, 5⟩
    cors := { default.cors with enabled := true } }

theorem load_listing : load listing = .ok asListed := by decide +kernel

theorem listing_layered : ∃ other,
    load listing = .ok asListed ∧ NamesSettings listing.environment ∧
    settle listed (listing.environment ++ [("portcullis__policy__timeout_secs", "17")]) "/srv" = .ok other ∧
    asListed.value? "rules" "store" = some (.string "memory") ∧
    asListed.value? "policy" "timeout_secs" = some (.ofNat 5) ∧
    asListed.rules.path = some "/srv/rules.json" ∧ "/srv/rules.json".startsWith "/" = true ∧
    other.value? "policy" "timeout_secs" = some (.ofNat 17) ∧
    other.value? "cors" "enabled" = some (.bool true) := by
  obtain ⟨loads, layered⟩ := settings_layered
  obtain ⟨file, read, settled⟩ := (loads listing asListed).mp load_listing
  cases fileEntries_listing.symm.trans read
  obtain ⟨-, -, entries, rooted, more⟩ := layered listed _ _ asListed namesSettings_listing settled
  have rulesPath : Tree.pathOf (Config.lowered "rules") = [.member "rules"] := by decide +kernel
  have corsPath : Tree.pathOf (Config.lowered "cors") = [.member "cors"] := by decide +kernel
  have apart : ∀ item ∈ [listed[1]], ¬ Bears "rules" "store" item := by
    intro item inside
    cases List.mem_singleton.mp inside
    exact Tree.not_bears_of_apart _ (by simp [listed, corsPath])
  obtain ⟨store, converted, told⟩ := (entries schema[2] (List.getElem_mem _) schema[2].entries[0]
    (List.getElem_mem _) (by decide +kernel)).1 [] listed[0] [listed[1]] _ rfl
    (.inside "rules" "store" _ [] [] _ rulesPath (by decide +kernel) nofun rfl) apart
  cases converted
  have silent : ∀ item ∈ listed, ¬ Bears "policy" "timeout_secs" item := by
    intro item inside
    rcases List.mem_cons.mp inside with rfl | inside
    · exact Tree.not_bears_of_apart _ (by simp [rulesPath])
    · cases List.mem_singleton.mp inside
      exact Tree.not_bears_of_apart _ (by simp [corsPath])
  have timeout := (entries schema[3] (List.getElem_mem _) schema[3].entries[3] (List.getElem_mem _)
    (by decide +kernel)).2 silent
  have absent : alone listed schema[3] = none := Option.isNone_iff_eq_none.mp (by decide +kernel)
  have added : Added listing.environment [] schema[3] schema[3].entries[3] "portcullis__policy__timeout_secs" :=
    ⟨List.getElem_mem _, List.getElem_mem _, by decide +kernel, nofun⟩
  obtain ⟨other, again, values⟩ := more listing.environment [] (List.append_nil _).symm _ _ _ "17" added
    (.inr fun origin items same => by cases absent.symm.trans same) (.ofNat 17) rfl
  refine ⟨other, load_listing, namesSettings_listing, again, told, timeout, rfl, rooted (by decide +kernel) _ rfl,
    ?_, ?_⟩
  · exact values schema[3] (List.getElem_mem _) schema[3].entries[3] (List.getElem_mem _)
  · exact values schema[6] (List.getElem_mem _) schema[6].entries[0] (List.getElem_mem _)

set_option maxRecDepth 10000 in
/-- The first variable for a section that the file has as a list changes another setting of that section. -/
theorem list_displaced :
    ¬ ∀ (sources : Sources) (settings other : Settings), NamesSettings sources.environment →
      load sources = .ok settings → ∀ before after, sources.environment = before ++ after →
      ∀ s entry name text, Added before after s entry name →
      load { sources with environment := before ++ (name, text) :: after } = .ok other →
      ∀ part ∈ schema, ∀ item ∈ part.entries, (part.name, item.name) ≠ (s.name, entry.name) →
      other.value? part.name item.name = settings.value? part.name item.name := by
  intro claimed
  have again : load { listing with
      environment := listing.environment ++ [("PORTCULLIS__CORS__ALLOW_CREDENTIALS", "true")] } =
        .ok { asListed with cors := { default.cors with credentials := true } } := by
    decide +kernel
  have added : Added listing.environment [] schema[6] schema[6].entries[4] "PORTCULLIS__CORS__ALLOW_CREDENTIALS" :=
    ⟨List.getElem_mem _, List.getElem_mem _, by decide +kernel, nofun⟩
  have enabled := claimed listing _ _ namesSettings_listing load_listing listing.environment []
    (List.append_nil _).symm _ _ _ _ added again schema[6] (List.getElem_mem _) schema[6].entries[0]
    (List.getElem_mem _) (by decide)
  cases enabled

end AccessGate.Settings
