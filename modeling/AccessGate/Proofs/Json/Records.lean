import AccessGate.Proofs.Json.Readers
import Mathlib.Data.List.Forall2

/-!
What a record reader makes of a node: for each field what was told under its name, or its default when
nothing was. Members that are no fields, and defaults that are told, change nothing; a field without a
default has to be told.
-/

namespace AccessGate.Json

open Reader

/-! ## Fields -/

namespace Reader

variable {fields : List Field}

/-- The names of the fields. -/
def fieldNames (fields : List Field) : List String := fields.map Field.name

theorem find?_field (distinct : (fieldNames fields).Nodup) (field : Field) (inside : field ∈ fields) :
    fields.find? (·.name == field.name) = some field := by
  induction fields with
  | nil => cases inside
  | cons first rest ih =>
      obtain ⟨fresh, distinct⟩ := List.nodup_cons.mp distinct
      rcases List.mem_cons.mp inside with rfl | later
      · simp
      · have other : first.name ≠ field.name := fun same => fresh (same ▸ List.mem_map_of_mem later)
        rw [List.find?_cons_of_neg (by simpa using other)]
        exact ih distinct later

theorem find?_strange (name : String) (strange : name ∉ fieldNames fields) :
    fields.find? (·.name == name) = none := by
  rw [List.find?_eq_none]
  intro field inside same
  exact strange (List.mem_map.mpr ⟨field, inside, by simpa using same⟩)

/-- What a field is in the end: what was gathered under its name, or its default. -/
def Field.ends (got : Members) (field : Field) : Option Value := (got.get? field.name).or field.absent

theorem complete_congr (place : Option Place) (got other : Members)
    (same : ∀ field ∈ fields, field.ends got = field.ends other) :
    complete place got fields = complete place other fields := by
  induction fields with
  | nil => rfl
  | cons field rest ih =>
      obtain ⟨first, others⟩ := List.forall_mem_cons.mp same
      unfold Field.ends at first
      rw [complete, complete, first, ih others]

theorem complete_ok_iff (place : Option Place) (got members : Members) :
    complete place got fields = .ok members ↔
      List.Forall₂ (fun field member => member.1 = field.name ∧ field.ends got = some member.2)
        fields members := by
  induction fields generalizing members with
  | nil =>
      rw [complete, List.forall₂_nil_left_iff]
      exact ⟨fun same => (Except.ok.inj same).symm, fun same => congrArg Except.ok same.symm⟩
  | cons field rest ih =>
      rw [complete, List.forall₂_cons_left_iff]
      constructor
      · intro done
        split at done
        · rename_i value ends
          obtain ⟨others, later, rfl⟩ := map_ok _ _ _ done
          exact ⟨(field.name, value), others, ⟨rfl, ends⟩, (ih others).mp later, rfl⟩
        · cases done
      · rintro ⟨⟨name, value⟩, others, ⟨rfl, ends⟩, later, rfl⟩
        unfold Field.ends at ends
        simp only [ends, (ih others).mpr later, Except.map]

end Reader

/-! ## Members of an object -/

namespace Entries

/-- The value of the first entry of a name. -/
def find? (name : String) : Entries → Option Node
  | .more (.ok key) _ value rest => if key = name then some value else rest.find? name
  | .more (.error _) _ _ rest => rest.find? name
  | _ => none

/-- What an object says of a field, or what the field is when it says nothing. -/
def Told (entries : Entries) (field : Field) (value : Value) : Prop :=
  (∃ node, entries.find? field.name = some node ∧ field.read node = .ok value) ∨
    entries.find? field.name = none ∧ field.absent = some value

/-- What an object says of the fields of a record. -/
def Tell (entries : Entries) : List Field → Members → Prop :=
  List.Forall₂ fun field member => member.1 = field.name ∧ entries.Told field member.2

theorem Tell.told {entries : Entries} {fields : List Field} {members : Members}
    (tell : entries.Tell fields members) (field : Field) (inside : field ∈ fields) :
    ∃ value, entries.Told field value := by
  induction tell with
  | nil => cases inside
  | cons said _ ih =>
      rcases List.mem_cons.mp inside with rfl | later
      · exact ⟨_, said.2⟩
      · exact ih later

/-- What is gathered of a field from some entries, with something gathered before. -/
structure Gathers (entries : Entries) (field : Field) (got final : Members) : Prop where
  before : ∀ value, got.get? field.name = some value →
    entries.find? field.name = none ∧ final.get? field.name = some value
  now : got.get? field.name = none → ∀ node, entries.find? field.name = some node →
    ∃ value, field.read node = .ok value ∧ final.get? field.name = some value
  never : got.get? field.name = none → entries.find? field.name = none → final.get? field.name = none

theorem Gathers.past {key : String} {after : Option Place} {node : Node} {rest : Entries} {field : Field}
    {got more final : Members} (gathers : rest.Gathers field more final) (other : key ≠ field.name)
    (same : more.get? field.name = got.get? field.name) :
    (Entries.more (.ok key) after node rest).Gathers field got final := by
  have ahead : (Entries.more (.ok key) after node rest).find? field.name = rest.find? field.name :=
    if_neg other
  refine ⟨?_, ?_, ?_⟩
  · rw [ahead, ← same]
    exact gathers.before
  · rw [ahead, ← same]
    exact gathers.now
  · rw [ahead, ← same]
    exact gathers.never

end Entries

theorem Members.get?_snoc (name key : String) (value : Value) (members : Members) :
    Members.get? name (members ++ [(key, value)]) =
      (members.get? name).or (if key = name then some value else none) := by
  induction members with
  | nil => simp [Members.get?]
  | cons first rest ih =>
      obtain ⟨other, old⟩ := first
      rw [List.cons_append, Members.get?, Members.get?, ih]
      split
      · rfl
      · rfl

theorem located_eq_ok (said : Except SyntaxError α) (value : α) (read : located said = .ok value) :
    said = .ok value := by
  cases said with
  | error e => cases read
  | ok found => exact congrArg _ (Except.ok.inj read)

-- By the recursion of the reader: each entry is of a field that nothing was gathered of, or is passed over.
theorem recordFields_gathers (fields : List Field) (distinct : (fieldNames fields).Nodup) (got : Members)
    (entries : Entries) (members : Members) (read : recordFields fields got entries = .ok members) :
    ∃ place final, complete place final fields = .ok members ∧
      ∀ field ∈ fields, entries.Gathers field got final := by
  fun_induction recordFields fields got entries with
  | case1 got after =>
      exact ⟨after, got, read, fun field inside =>
        ⟨fun value found => ⟨rfl, found⟩, nofun, fun nothing _ => nothing⟩⟩
  | case2 got e => cases read
  | case3 got name after value rest e failed => cases read
  | case4 got name after value rest key named unknown e failed => cases read
  | case5 got name after value rest key named unknown skipped ih =>
      obtain ⟨place, final, done, gathers⟩ := ih read
      cases located_eq_ok name key named
      refine ⟨place, final, done, fun field inside => ?_⟩
      have other : key ≠ field.name := by
        rintro rfl
        rw [find?_field distinct field inside] at unknown
        cases unknown
      exact (gathers field inside).past other rfl
  | case6 got name after value rest key named field known again => cases read
  | case7 got name after value rest key named field known fresh e failed => cases read
  | case8 got name after node rest key named field known fresh value said ih =>
      obtain ⟨place, final, done, gathers⟩ := ih read
      cases located_eq_ok name key named
      rw [Option.not_isSome_iff_eq_none] at fresh
      refine ⟨place, final, done, fun other inside => ?_⟩
      by_cases same : key = other.name
      · have self : field = other := by
          rw [same, find?_field distinct other inside] at known
          exact (Option.some.inj known).symm
        subst self
        have here : (Entries.more (.ok key) after node rest).find? field.name = some node := if_pos same
        have told := ((gathers field inside).before value (by
          rw [Members.get?_snoc, if_pos same, ← same, fresh, Option.none_or])).2
        rw [same] at fresh
        refine ⟨fun old found => ?_, fun _ found is_found => ?_, fun _ missing => ?_⟩
        · rw [fresh] at found
          cases found
        · rw [here] at is_found
          cases is_found
          exact ⟨value, said, told⟩
        · rw [here] at missing
          cases missing
      · refine (gathers other inside).past same ?_
        rw [Members.get?_snoc, if_neg same, Option.or_none]

theorem recordFields_told (fields : List Field) (distinct : (fieldNames fields).Nodup) (entries : Entries)
    (members : Members) (read : recordFields fields [] entries = .ok members) :
    entries.Tell fields members := by
  obtain ⟨place, final, done, gathers⟩ := recordFields_gathers fields distinct [] entries members read
  have ends := (complete_ok_iff place final members).mp done
  have both := (List.forall₂_and_left fields members).mpr ⟨gathers, ends⟩
  refine both.imp fun field member known => ⟨known.2.1, ?_⟩
  obtain ⟨gathered, -, ends⟩ := known
  unfold Field.ends at ends
  cases found : entries.find? field.name with
  | none =>
      rw [gathered.never rfl found, Option.none_or] at ends
      exact .inr ⟨found, ends⟩
  | some node =>
      obtain ⟨value, said, told⟩ := gathered.now rfl node found
      rw [told, Option.some_or, Option.some.injEq] at ends
      exact .inl ⟨node, found, ends ▸ said⟩

/-- What a list says of the fields of a record, each at its place; what is not there may have a default. -/
inductive Items.Fill : Items → List Field → Members → Prop
  | full (after : Option Place) : Items.Fill (.done after) [] []
  | left (after : Option Place) (field : Field) (fields : List Field) (value : Value) (members : Members)
      (positional : field.positional = true) (default : field.absent = some value)
      (others : Items.Fill (.done after) fields members) :
      Items.Fill (.done after) (field :: fields) ((field.name, value) :: members)
  | said (surplus : Option SyntaxError) (node : Node) (rest : Items) (field : Field) (fields : List Field)
      (value : Value) (members : Members) (read : field.read node = .ok value)
      (others : Items.Fill rest fields members) :
      Items.Fill (.more surplus node rest) (field :: fields) ((field.name, value) :: members)

theorem positionalFields_fill (expected : String) (index : Nat) (fields : List Field) (items : Items)
    (members : Members) (read : positionalFields expected index fields items = .ok members) :
    items.Fill fields members := by
  fun_induction positionalFields expected index fields items generalizing members with
  | case1 index items =>
      unfold surplus at read
      split at read
      · cases read
        exact .full _
      · cases read
      · cases read
      · cases read
  | case2 index field fields after value absent positional ih =>
      obtain ⟨later, rest, rfl⟩ := map_ok _ _ _ read
      exact .left after field fields value later positional absent (ih later rest)
  | case3 index field fields after refused => cases read
  | case4 index field fields e surplus => cases read
  | case5 index field fields surplus item rest e failed => cases read
  | case6 index field fields surplus item rest value said ih =>
      obtain ⟨later, others, rfl⟩ := map_ok _ _ _ read
      exact .said surplus item rest field fields value later said (ih later others)

/-- What a node says of the fields of a record, by name or by place. -/
inductive Node.Tells (node : Node) (fields : List Field) (members : Members) : Prop
  | named (first : Option Place) (entries : Entries) (opened : node.opened = .object first none entries)
      (each : entries.Tell fields members)
  | listed (first : Option Place) (items : Items) (opened : node.opened = .array first none items)
      (each : items.Fill fields members)

def DefaultsRead (fields : List Field) : Prop :=
  ∀ field ∈ fields, ∀ value, field.absent = some value → field.read (.given value) = .ok value

/-- Members that some readers gave. -/
def ReadForm : List Field → Members → Prop :=
  List.Forall₂ fun field member => ∃ node value, member = (field.name, value) ∧ field.read node = .ok value

theorem Entries.Tell.read {entries : Entries} {fields : List Field} {members : Members}
    (tell : entries.Tell fields members) (defaults : DefaultsRead fields) : ReadForm fields members := by
  induction tell with
  | nil => exact .nil
  | @cons field member _ _ said _ ih =>
      obtain ⟨first, others⟩ := List.forall_mem_cons.mp defaults
      obtain ⟨same, ⟨node, -, read⟩ | ⟨-, default⟩⟩ := said
      · exact .cons ⟨node, member.2, Prod.ext same rfl, read⟩ (ih others)
      · exact .cons ⟨.given member.2, member.2, Prod.ext same rfl, first member.2 default⟩ (ih others)

theorem Items.Fill.read {items : Items} {fields : List Field} {members : Members}
    (fill : items.Fill fields members) (defaults : DefaultsRead fields) : ReadForm fields members := by
  induction fill with
  | full after => exact .nil
  | left after field fields value members positional default others ih =>
      obtain ⟨first, others⟩ := List.forall_mem_cons.mp defaults
      exact .cons ⟨.given value, value, rfl, first value default⟩ (ih others)
  | said surplus node rest field fields value members read others ih =>
      exact .cons ⟨node, value, rfl, read⟩ (ih (List.forall_mem_cons.mp defaults).2)

theorem Node.Tells.read {node : Node} {fields : List Field} {members : Members}
    (tells : node.Tells fields members) (defaults : DefaultsRead fields) : ReadForm fields members := by
  cases tells with
  | named first entries opened each => exact each.read defaults
  | listed first items opened each => exact each.read defaults

theorem record_ok (title : String) (fields : List Field) (distinct : (fieldNames fields).Nodup) (node : Node)
    (value : Value) (read : record title fields node = .ok value) :
    ∃ members, value = .object members ∧ node.Tells fields members := by
  unfold record at read
  dsimp only at read
  split at read
  · cases read
  · rename_i first entries opened
    obtain ⟨members, each, rfl⟩ := map_ok _ _ _ read
    have told := recordFields_told fields distinct entries members each
    exact ⟨members, rfl, .named first entries opened told⟩
  · cases read
  · rename_i first items opened
    obtain ⟨members, each, rfl⟩ := map_ok _ _ _ read
    have fill := positionalFields_fill _ 0 fields items members each
    exact ⟨members, rfl, .listed first items opened fill⟩
  · exact absurd read (unwanted_error _ _ _)

/-! ## Given records -/

theorem complete_toOption (fields : List Field) (place other : Option Place) (got : Members) :
    (complete place got fields).toOption = (complete other got fields).toOption := by
  induction fields with
  | nil => rfl
  | cons field rest ih =>
      simp only [complete]
      split
      · rw [toOption_map, toOption_map, ih]
      · rfl

theorem recordFields_more (fields : List Field) (got : Members) (key : String) (after : Option Place)
    (node : Node) (rest : Entries) (fine : node.skipped = .ok ()) :
    (recordFields fields got (.more (.ok key) after node rest)).toOption =
      match fields.find? (·.name == key) with
      | none => (recordFields fields got rest).toOption
      | some field =>
          if (got.get? key).isSome then none
          else (field.read node).toOption.bind fun value =>
            (recordFields fields (got ++ [(key, value)]) rest).toOption := by
  simp only [recordFields, located_ok, fine]
  cases fields.find? (·.name == key) with
  | none => rfl
  | some field =>
      dsimp only
      split
      · rfl
      · cases field.read node with
        | error e => rfl
        | ok value => rfl

theorem recordFields_byValue (fields : List Field) (inner : ∀ field ∈ fields, ByValue field.read)
    (entries : Entries) (members : Members) (denote : entries.Denote members) (got : Members) :
    (recordFields fields got entries).toOption =
      (recordFields fields got (Entries.ofMembers members)).toOption := by
  induction members generalizing entries got with
  | nil =>
      cases denote with
      | done after => exact complete_toOption fields after none got
  | cons member members ih =>
      cases denote with
      | more name after node value rest _ first others =>
          rw [Entries.ofMembers, recordFields_more _ _ _ _ _ _ first.skipped_ok,
            recordFields_more _ _ _ _ _ _ (by rw [Node.skipped])]
          cases known : fields.find? (·.name == name) with
          | none => exact ih rest others got
          | some field =>
              dsimp only
              rw [inner field (List.mem_of_find?_eq_some known) node value (.inr first)]
              simp only [ih rest others]

theorem positionalFields_more (expected : String) (index : Nat) (field : Field) (fields : List Field)
    (surplus : Option SyntaxError) (node : Node) (rest : Items) :
    (positionalFields expected index (field :: fields) (.more surplus node rest)).toOption =
      (field.read node).toOption.bind fun value =>
        (positionalFields expected (index + 1) fields rest).toOption.map ((field.name, value) :: ·) := by
  rw [positionalFields]
  cases field.read node with
  | error e => rfl
  | ok value => exact toOption_map _ _

-- By induction on the fields: each takes the next item, or what it is when there is none.
theorem positionalFields_byValue (expected : String) (fields : List Field)
    (inner : ∀ field ∈ fields, ByValue field.read) (index : Nat) (items : Items) (values : List Value)
    (denote : items.Denote values) :
    (positionalFields expected index fields items).toOption =
      (positionalFields expected index fields (Items.ofValues values)).toOption := by
  induction fields generalizing index items values with
  | nil =>
      simp only [positionalFields]
      cases denote with
      | done after => rfl
      | more surplus node value rest values first others => cases surplus <;> rfl
  | cons field fields ih =>
      obtain ⟨reads, others⟩ := List.forall_mem_cons.mp inner
      cases denote with
      | done after =>
          simp only [positionalFields, Items.ofValues]
          split
          · rw [toOption_map, toOption_map, ih others _ (.done after) [] (.done after)]
            rfl
          · rfl
      | more surplus node value rest values first later =>
          rw [Items.ofValues, positionalFields_more, positionalFields_more, reads node value (.inr first)]
          simp only [ih others (index + 1) rest values later]

theorem Reader.byValue_record (title : String) (fields : List Field)
    (inner : ∀ field ∈ fields, ByValue field.read) : ByValue (record title fields) := by
  rintro node value (rfl | denotes)
  · rfl
  · cases denotes with
    | object first entries members distinct each =>
        simp only [record, Node.opened, toOption_map]
        rw [recordFields_byValue fields inner entries members each]
    | array first items values each =>
        simp only [record, Node.opened, toOption_map]
        rw [positionalFields_byValue _ fields inner 0 items values each]
    | _ => rfl

/-- Members that are just what some fields are read as. -/
def FullForm : List Field → Members → Prop :=
  List.Forall₂ fun field member => member.1 = field.name ∧ field.read (.given member.2) = .ok member.2

theorem FullForm.names_eq {fields : List Field} {members : Members} (full : FullForm fields members) :
    Members.names members = fieldNames fields := by
  induction full with
  | nil => rfl
  | cons same _ ih => exact congrArg₂ List.cons same.1 ih

-- By induction on the fields that are left: nothing was gathered of them before.
theorem recordFields_full (fields left : List Field) (members got : Members)
    (distinct : (fieldNames fields).Nodup) (part : ∀ field ∈ left, field ∈ fields)
    (apart : (got.names ++ fieldNames left).Nodup) (full : FullForm left members) :
    recordFields fields got (Entries.ofMembers members) = complete none (got ++ members) fields := by
  induction full generalizing got with
  | nil => rw [Entries.ofMembers, recordFields, List.append_nil]
  | @cons field member left rest said _ ih =>
      obtain ⟨name, value⟩ := member
      obtain ⟨rfl, read⟩ := said
      obtain ⟨inside, others⟩ := List.forall_mem_cons.mp part
      have fresh : got.get? field.name = none := by
        apply Members.get?_absent
        intro among
        exact (List.nodup_append.mp apart).2.2 _ among _ List.mem_cons_self rfl
      have next := ih (got ++ [(field.name, value)]) others (by
        simpa [Members.names, fieldNames] using apart)
      rw [List.append_assoc, List.singleton_append] at next
      rw [Entries.ofMembers, recordFields, ← next]
      simp only [located_ok, find?_field distinct field inside, fresh, Option.isSome_none, Bool.false_eq_true,
        if_false, read]

/-- The full form of a record is read as it is. -/
theorem record_full (title : String) (fields : List Field) (members : Members)
    (distinct : (fieldNames fields).Nodup) (full : FullForm fields members) :
    record title fields (.given (.object members)) = .ok (.object members) := by
  have gathered := recordFields_full fields fields members [] distinct (fun _ inside => inside) distinct full
  have both := (List.forall₂_and_left members fields).mpr ⟨fun member inside => inside, full.flip⟩
  have ends := (complete_ok_iff none members members).mpr (both.flip.imp fun field member known => by
    obtain ⟨inside, same, -⟩ := known
    refine ⟨same, ?_⟩
    unfold Field.ends
    rw [← same, Members.get?_member member.1 member.2 members (full.names_eq ▸ distinct) inside]
    rfl)
  rw [List.nil_append, ends] at gathered
  simp only [record, Node.opened, gathered, Except.map]

theorem recordFields_front (fields : List Field) (holds : Members → Prop) (front left right : Members)
    (kept : ∀ got, holds got → ∀ member ∈ front, ∀ value, holds (got ++ [(member.1, value)]))
    (same : ∀ got, holds got →
      recordFields fields got (Entries.ofMembers left) = recordFields fields got (Entries.ofMembers right))
    (got : Members) (start : holds got) :
    recordFields fields got (Entries.ofMembers (front ++ left)) =
      recordFields fields got (Entries.ofMembers (front ++ right)) := by
  induction front generalizing got with
  | nil => exact same got start
  | cons member rest ih =>
      obtain ⟨name, value⟩ := member
      have later := ih fun got start member inside => kept got start member (List.mem_cons_of_mem _ inside)
      simp only [List.cons_append, Entries.ofMembers, recordFields, located_ok, later got start]
      cases fields.find? (·.name == name) with
      | none => rfl
      | some field =>
          dsimp only
          cases field.read (.given value) with
          | error e => rfl
          | ok read =>
              simp only [later _ (kept got start (name, value) List.mem_cons_self read)]

theorem recordFields_unknown (fields : List Field) (name : String) (strange : name ∉ fieldNames fields)
    (value : Value) (front back got : Members) :
    recordFields fields got (Entries.ofMembers (front ++ (name, value) :: back)) =
      recordFields fields got (Entries.ofMembers (front ++ back)) := by
  refine recordFields_front fields (fun _ => True) front _ back (fun _ _ _ _ _ => trivial) ?_ got trivial
  intro got _
  simp only [Entries.ofMembers, recordFields, located_ok, find?_strange name strange, Node.skipped]

/-- What is gathered counts as far as it says anything of the fields and of the members that follow. -/
theorem recordFields_congr (fields : List Field) (back got other : Members)
    (agree : ∀ name ∈ back.names, got.get? name = other.get? name)
    (ends : ∀ field ∈ fields, field.ends got = field.ends other) :
    recordFields fields got (Entries.ofMembers back) =
      recordFields fields other (Entries.ofMembers back) := by
  induction back generalizing got other with
  | nil => exact complete_congr none got other ends
  | cons member rest ih =>
      obtain ⟨name, value⟩ := member
      obtain ⟨here, later⟩ := List.forall_mem_cons.mp agree
      dsimp only at here
      simp only [Entries.ofMembers, recordFields, located_ok, here, ih got other later ends]
      cases fields.find? (·.name == name) with
      | none => rfl
      | some field =>
          dsimp only
          cases field.read (.given value) with
          | error e => rfl
          | ok read =>
              have next := ih (got ++ [(name, read)]) (other ++ [(name, read)]) (fun key inside => by
                rw [Members.get?_snoc, Members.get?_snoc, later key inside]) fun field inside => by
                by_cases same : name = field.name
                · unfold Field.ends
                  rw [Members.get?_snoc, Members.get?_snoc, ← same, here]
                · have kept := ends field inside
                  unfold Field.ends at kept ⊢
                  rw [Members.get?_snoc, Members.get?_snoc, if_neg same, Option.or_none, Option.or_none, kept]
              simp only [next]

theorem recordFields_spelled (fields : List Field) (distinct : (fieldNames fields).Nodup) (field : Field)
    (inside : field ∈ fields) (value : Value) (default : field.absent = some value)
    (read : field.read (.given value) = .ok value) (front back : Members)
    (fresh : field.name ∉ Members.names (front ++ back)) :
    recordFields fields [] (Entries.ofMembers (front ++ (field.name, value) :: back)) =
      recordFields fields [] (Entries.ofMembers (front ++ back)) := by
  rw [Members.names, List.map_append, List.mem_append, not_or] at fresh
  refine recordFields_front fields (fun got => got.get? field.name = none) front _ back ?_ ?_ [] rfl
  · intro got free member among read
    have other : member.1 ≠ field.name := fun same => fresh.1 (same ▸ List.mem_map_of_mem among)
    rw [Members.get?_snoc, if_neg other, free]
    rfl
  · intro got free
    have here := find?_field distinct field inside
    simp only [Entries.ofMembers, recordFields, located_ok, here, free, read]
    refine recordFields_congr fields back _ got (fun name among => ?_) fun other among => ?_
    · have strange : field.name ≠ name := fun same => fresh.2 (same ▸ among)
      rw [Members.get?_snoc, if_neg strange, Option.or_none]
    · unfold Field.ends
      rw [Members.get?_snoc]
      by_cases same : field.name = other.name
      · have self := find?_field distinct other among
        rw [← same, here] at self
        cases Option.some.inj self
        rw [free, if_pos rfl, default]
        rfl
      · rw [if_neg same, Option.or_none]

theorem recordFields_replaced (fields : List Field) (distinct : (fieldNames fields).Nodup) (field : Field)
    (inside : field ∈ fields) (old new : Value) (same : field.read (.given old) = field.read (.given new))
    (front back : Members) :
    recordFields fields [] (Entries.ofMembers (front ++ (field.name, old) :: back)) =
      recordFields fields [] (Entries.ofMembers (front ++ (field.name, new) :: back)) := by
  refine recordFields_front fields (fun _ => True) front _ _ (fun _ _ _ _ _ => trivial) ?_ [] trivial
  intro got _
  simp only [Entries.ofMembers, recordFields, located_ok, find?_field distinct field inside, same]

end AccessGate.Json
