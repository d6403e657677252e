import AccessGate.Proofs.Json.Records
import AccessGate.Proofs.Json.RoundTrip

/-!
Kinds of records, and how they and their JSON belong together: what is encoded is decoded again, members that
nobody knows and defaults that are told change nothing, and what has to be told is never made up.
-/

namespace AccessGate.Json

open Reader

variable {α β : Type}

/-! ## Readers that go by their fields -/

/-- The fields that have to be told. -/
def requiredNames (fields : List Field) : List String := fieldNames (fields.filter (·.absent.isNone))

/-- What a reader of records makes of members that it does not know, of defaults that are told, of members
that are read alike, and of an object that leaves out what it has to say. -/
structure Lenient (fields : List Field) (read : Node → Except ReadError α) : Prop where
  unknown : ∀ (front back : Members) (name : String) (value : Value), name ∉ fieldNames fields →
    read (.given (.object (front ++ (name, value) :: back))) = read (.given (.object (front ++ back)))
  spelled : ∀ (front back : Members), ∀ field ∈ fields, ∀ value, field.absent = some value →
    field.name ∉ Members.names (front ++ back) →
    read (.given (.object (front ++ (field.name, value) :: back))) = read (.given (.object (front ++ back)))
  replaced : ∀ (front back : Members), ∀ field ∈ fields, ∀ old new,
    field.read (.given old) = field.read (.given new) →
    read (.given (.object (front ++ (field.name, old) :: back))) =
      read (.given (.object (front ++ (field.name, new) :: back)))
  missing : ∀ (node : Node) (first : Option Place) (deep : Option SyntaxError) (entries : Entries),
    node.opened = .object first deep entries → ∀ name ∈ requiredNames fields,
    entries.find? name = none → ∃ e, read node = .error e

theorem lenient_record (title : String) (fields : List Field) (distinct : (fieldNames fields).Nodup)
    (defaults : DefaultsRead fields) : Lenient fields (record title fields) where
  unknown front back name value strange := by
    simp only [record, Node.opened, recordFields_unknown fields name strange]
  spelled front back field inside value default fresh := by
    have taken := defaults field inside value default
    simp only [record, Node.opened,
      recordFields_spelled fields distinct field inside value default taken front back fresh]
  replaced front back field inside old new same := by
    simp only [record, Node.opened, recordFields_replaced fields distinct field inside old new same]
  missing node first deep entries opened name needed unsaid := by
    obtain ⟨field, chosen, rfl⟩ := List.mem_map.mp needed
    obtain ⟨inside, needed⟩ := List.mem_filter.mp chosen
    cases read : record title fields node with
    | error e => exact ⟨e, rfl⟩
    | ok value =>
        obtain ⟨members, -, tells⟩ := record_ok title fields distinct node value read
        cases tells with
        | named place others found each =>
            cases opened.symm.trans found
            obtain ⟨value, ⟨said, known, -⟩ | ⟨-, default⟩⟩ := each.told field inside
            · rw [unsaid] at known
              cases known
            · rw [default] at needed
              cases needed
        | listed place items found each => cases opened.symm.trans found

theorem Lenient.map {fields : List Field} {read : Node → Except ReadError α} (f : α → β)
    (lenient : Lenient fields read) : Lenient fields fun node => (read node).map f where
  unknown front back name value strange := by rw [lenient.unknown front back name value strange]
  spelled front back field inside value default fresh := by
    rw [lenient.spelled front back field inside value default fresh]
  replaced front back field inside old new same := by
    rw [lenient.replaced front back field inside old new same]
  missing node first deep entries opened name needed unsaid := by
    obtain ⟨e, failed⟩ := lenient.missing node first deep entries opened name needed unsaid
    exact ⟨e, by rw [failed]; rfl⟩

/-! ## How deep a record is -/

theorem Entries.Within.find : ∀ {depth : Nat} {entries : Entries}, entries.Within depth →
    ∀ name node, entries.find? name = some node → node.Within depth
  | _, _, .done _ _, name, node, found => by cases found
  | _, _, .broken _ _, name, node, found => by cases found
  | _, _, .more depth (.error e) after value rest first others, name, node, found =>
      others.find name node found
  | _, _, .more depth (.ok key) after value rest first others, name, node, found => by
      rw [Entries.find?] at found
      split at found
      · cases found
        exact first
      · exact others.find name node found

/-- Nothing that a reader takes inside a record is too deep for another text of the record. -/
def Shallow (read : Reader) : Prop :=
  ∀ node value, node.Within 1 → read node = .ok value → value.depth < depthLimit

theorem strings_depth (texts : List String) : (Value.strings texts).depth = 1 := by
  have flat : itemsDepth (texts.map .string) ≤ 0 := by
    rw [itemsDepth_le_iff]
    intro item inside
    obtain ⟨s, -, rfl⟩ := List.mem_map.mp inside
    exact Nat.le_refl 0
  rw [Value.strings, Value.depth, Nat.le_zero.mp flat]

/-- A reader that can stand in a record. -/
structure Regular (read : Reader) : Prop where
  byValue : ByValue read
  shallow : Shallow read

theorem regular_string : Regular string where
  byValue := byValue_string
  shallow node value _ read := by
    obtain ⟨s, rfl⟩ := string_ok node value read
    exact (by decide : 0 < depthLimit)

theorem regular_flag : Regular flag where
  byValue := byValue_flag
  shallow node value _ read := by
    obtain ⟨first, after, b, -, rfl⟩ := flag_ok node value read
    exact (by decide : 0 < depthLimit)

theorem regular_choice (names : List String) : Regular (choice names) where
  byValue := byValue_choice names
  shallow node value _ read := by
    obtain ⟨chosen, -, rfl⟩ := choice_ok names node value read
    exact (by decide : 0 < depthLimit)

theorem regular_strings : Regular (list string) where
  byValue := byValue_list string byValue_string
  shallow node value _ read := by
    obtain ⟨first, items, texts, -, rfl⟩ := strings_ok node value read
    rw [strings_depth]
    decide

theorem regular_members : Regular members where
  byValue := byValue_members
  shallow node value within read := by
    obtain ⟨first, entries, m, opened, rfl⟩ := members_ok node value read
    cases within with
    | object _ place inside room inner =>
        have bound := (Node.Within.object 1 place inside room inner).depth_le _ read
        omega
    | _ => cases opened

/-- A field that a record can have. Its default is what its own reader takes. -/
structure Usable (field : Field) : Prop where
  regular : Regular field.read
  taken : ∀ value, field.absent = some value → field.read (.given value) = .ok value
  low : ∀ value, field.absent = some value → value.depth < depthLimit

theorem usable_required (name : String) {read : Reader} (regular : Regular read) :
    Usable (.required name read) := ⟨regular, nofun, nofun⟩

theorem usable_withDefault (name : String) {read : Reader} {default : Value} (regular : Regular read)
    (taken : read (.given default) = .ok default) (low : default.depth < depthLimit) :
    Usable (.withDefault name read default) where
  regular := regular
  taken value same := by
    cases same
    exact taken
  low value same := by
    cases same
    exact low

theorem usable_text (name : String) : Usable (.withDefault name string (.string "")) :=
  usable_withDefault name regular_string rfl (by decide)

theorem usable_texts (name : String) : Usable (.withDefault name (list string) (.array [])) :=
  usable_withDefault name regular_strings rfl (by decide)

theorem usable_members (name : String) : Usable (.withDefault name members (.object [])) :=
  usable_withDefault name regular_members rfl (by decide)

section

variable {fields : List Field} {found : Members}

theorem Entries.Tell.shallow {entries : Entries} (tell : entries.Tell fields found)
    (within : entries.Within 1) (usable : ∀ field ∈ fields, Usable field) :
    ∀ member ∈ found, member.2.depth < depthLimit := by
  induction tell with
  | nil => exact List.forall_mem_nil _
  | @cons field member _ _ said _ ih =>
      obtain ⟨first, others⟩ := List.forall_mem_cons.mp usable
      refine List.forall_mem_cons.mpr ⟨?_, ih others⟩
      rcases said.2 with ⟨node, known, taken⟩ | ⟨-, default⟩
      · exact first.regular.shallow node member.2 (within.find _ node known) taken
      · exact first.low member.2 default

theorem Items.Fill.shallow {items : Items} (fill : items.Fill fields found) (within : items.Within 1)
    (usable : ∀ field ∈ fields, Usable field) : ∀ member ∈ found, member.2.depth < depthLimit := by
  induction fill with
  | full after => exact List.forall_mem_nil _
  | left after field fields value members positional default _ ih =>
      obtain ⟨first, others⟩ := List.forall_mem_cons.mp usable
      exact List.forall_mem_cons.mpr ⟨first.low value default, ih within others⟩
  | said surplus node rest field fields value members taken _ ih =>
      obtain ⟨first, others⟩ := List.forall_mem_cons.mp usable
      cases within with
      | more _ _ _ _ here next =>
          exact List.forall_mem_cons.mpr ⟨first.regular.shallow node value here taken, ih next others⟩

/-- What a text says of a record can be said in a text again. -/
theorem Node.Tells.depth_le {node : Node} (tells : node.Tells fields found) (within : node.Within 0)
    (usable : ∀ field ∈ fields, Usable field) : (Value.object found).depth ≤ depthLimit := by
  have each : ∀ member ∈ found, member.2.depth < depthLimit := by
    cases tells with
    | named first entries opened each =>
        cases within with
        | object _ _ _ _ inside =>
            cases opened
            exact each.shallow inside usable
        | _ => cases opened
    | listed first items opened each =>
        cases within with
        | array _ _ _ _ inside =>
            cases opened
            exact each.shallow inside usable
        | _ => cases opened
  have inner := (membersDepth_le_iff found (depthLimit - 1)).mpr fun member inside =>
    Nat.le_pred_of_lt (each member inside)
  have some_room : 0 < depthLimit := by decide
  rw [Value.depth]
  omega

end

/-! ## Texts in a record -/

theorem list_strings (texts : List String) : list string (.given (.strings texts)) = .ok (.strings texts) := by
  have each : ∀ index,
      itemsWith string index (Items.ofValues (texts.map .string)) = .ok (texts.map .string) := by
    induction texts with
    | nil => exact fun _ => rfl
    | cons s rest ih =>
        intro index
        simp only [List.map_cons, Items.ofValues, itemsWith, ih]
        rfl
  simp only [list, Value.strings, Node.opened, each, Except.map]

theorem texts_strings (texts : List String) :
    (((Value.strings texts).items?).getD []).filterMap Value.text? = texts := by
  simp only [Value.strings, Value.items?, Option.getD_some, List.filterMap_map]
  exact List.filterMap_some

/-! ## Forms -/

/-- A kind of record that is exchanged: its fields, and its members in their full form, which is what the
readers of the fields take together. -/
structure RecordForm (α : Type) where
  title : String
  fields : List Field
  ofMembers : Members → α
  toMembers : α → Members
  distinct : (fieldNames fields).Nodup
  usable : ∀ field ∈ fields, Usable field
  full : ∀ x, FullForm fields (toMembers x)
  kept : ∀ x, ofMembers (toMembers x) = x
  typed : ∀ members, ReadForm fields members → toMembers (ofMembers members) = members

/-- How a kind of record and its JSON belong together. What is encoded is decoded again, whether it is given or
stands in a tree without faults, and in a text just when that is not too deep. Encoding what was decoded only
fills in defaults, and it is decoded again, too. -/
structure Lawful (fields : List Field) (decode : Node → Except ReadError α) (encode : α → Value) : Prop
    extends Lenient fields decode where
  byValue : ∀ (node : Node) (value : Value), node.Stands value →
    (decode node).toOption = (decode (.given value)).toOption
  back : ∀ x node, node.Stands (encode x) → decode node = .ok x
  text : ∀ x, (encode x).Legible →
    ((Document.ofChars (encode x).chars).read decode = .ok x ↔ (encode x).depth ≤ depthLimit)
  filled : ∀ node x, decode node = .ok x → ∃ members, encode x = .object members ∧ node.Tells fields members
  again : ∀ text x, (Document.ofChars text).read decode = .ok x → (encode x).Legible →
    (Document.ofChars (encode x).chars).read decode = .ok x

namespace RecordForm

variable (form : RecordForm α)

def decode (node : Node) : Except ReadError α :=
  (record form.title form.fields node).map fun value => form.ofMembers (value.members?.getD [])

def encode (x : α) : Value := .object (form.toMembers x)

theorem defaultsRead : DefaultsRead form.fields :=
  fun field inside => (form.usable field inside).taken

theorem byValue_reader : ByValue (record form.title form.fields) :=
  byValue_record form.title form.fields fun field inside => (form.usable field inside).regular.byValue

theorem decode_stands (x : α) (node : Node) (stands : node.Stands (form.encode x)) :
    form.decode node = .ok x := by
  have given := record_full form.title form.fields (form.toMembers x) form.distinct (form.full x)
  have read := form.byValue_reader.ok stands given
  simp only [decode, read, Except.map, Value.members?, Option.getD_some, form.kept]

theorem decode_fills (node : Node) (x : α) (read : form.decode node = .ok x) :
    node.Tells form.fields (form.toMembers x) := by
  obtain ⟨value, taken, rfl⟩ := map_ok _ _ _ read
  obtain ⟨members, rfl, tells⟩ := record_ok form.title form.fields form.distinct node value taken
  have same := form.typed members (tells.read form.defaultsRead)
  simp only [Value.members?, Option.getD_some, same, tells]

theorem decode_shallow (text : List Char) (x : α) (read : (Document.ofChars text).read form.decode = .ok x) :
    (form.encode x).depth ≤ depthLimit :=
  (form.decode_fills _ x (Document.read_ok _ _ x read)).depth_le (ofChars_within text) form.usable

theorem decode_chars (x : α) (legible : (form.encode x).Legible) (room : (form.encode x).depth ≤ depthLimit) :
    (Document.ofChars (form.encode x).chars).read form.decode = .ok x := by
  obtain ⟨node, tree, denotes⟩ := ofChars_printed (form.encode x) (legible.readsBack 0 (by omega))
  simp only [tree, Document.read, form.decode_stands x node (.inr denotes)]

theorem lawful : Lawful form.fields form.decode form.encode where
  toLenient := (lenient_record form.title form.fields form.distinct form.defaultsRead).map _
  byValue node value stands := by
    have same := form.byValue_reader node value stands
    simp only [decode, toOption_map, same]
  back := form.decode_stands
  text x legible := ⟨form.decode_shallow _ x, form.decode_chars x legible⟩
  filled node x read := ⟨form.toMembers x, rfl, form.decode_fills node x read⟩
  again text x read legible := form.decode_chars x legible (form.decode_shallow text x read)

end RecordForm

end AccessGate.Json
