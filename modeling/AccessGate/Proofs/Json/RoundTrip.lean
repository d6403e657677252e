import AccessGate.Proofs.Json.Numerals

/-!
Values that survive print. Text keeps everything of a value but some doubles and repeated names, as long as
its containers do not stand deeper inside each other than a reader goes.
-/

namespace AccessGate.Json

mutual

/-- How many containers stand inside each other. -/
def Value.depth : Value → Nat
  | .array items => itemsDepth items + 1
  | .object members => membersDepth members + 1
  | _ => 0

def itemsDepth : List Value → Nat
  | [] => 0
  | first :: rest => max first.depth (itemsDepth rest)

def membersDepth : List (String × Value) → Nat
  | [] => 0
  | (_, value) :: rest => max value.depth (membersDepth rest)

end

/-- Values whose numbers are whole and of 64 bits, and that have no name twice. -/
inductive Value.Exact : Value → Prop
  | null : Value.Exact .null
  | bool (b : Bool) : Value.Exact (.bool b)
  | string (s : String) : Value.Exact (.string s)
  | whole (i : Int) (low : -(2 ^ 63) ≤ i) (high : i < 2 ^ 64) : Value.Exact (.number (.whole i))
  | array (items : List Value) (each : ∀ item ∈ items, Value.Exact item) : Value.Exact (.array items)
  | object (members : Members) (distinct : members.names.Nodup)
      (each : ∀ member ∈ members, Value.Exact member.2) : Value.Exact (.object members)

/-- Values whose numbers are each said by their own texts, and that have no name twice. -/
inductive Value.Legible : Value → Prop
  | null : Value.Legible .null
  | bool (b : Bool) : Value.Legible (.bool b)
  | string (s : String) : Value.Legible (.string s)
  | number (n : Number) (alone : n.Legible) : Value.Legible (.number n)
  | array (items : List Value) (each : ∀ item ∈ items, Value.Legible item) : Value.Legible (.array items)
  | object (members : Members) (distinct : members.names.Nodup)
      (each : ∀ member ∈ members, Value.Legible member.2) : Value.Legible (.object members)

theorem Value.Exact.legible {value : Value} (exact : value.Exact) : value.Legible := by
  induction exact with
  | null => exact .null
  | bool b => exact .bool b
  | string s => exact .string s
  | whole i low high => exact .number _ (legible_whole i low high)
  | array items each ih => exact .array items ih
  | object members distinct each ih => exact .object members distinct ih

theorem itemsDepth_le_iff (items : List Value) (bound : Nat) :
    itemsDepth items ≤ bound ↔ ∀ item ∈ items, item.depth ≤ bound := by
  induction items with
  | nil => simp [itemsDepth]
  | cons first rest ih => rw [itemsDepth, Nat.max_le, ih, List.forall_mem_cons]

theorem membersDepth_le_iff (members : Members) (bound : Nat) :
    membersDepth members ≤ bound ↔ ∀ member ∈ members, member.2.depth ≤ bound := by
  induction members with
  | nil => simp [membersDepth]
  | cons first rest ih => rw [membersDepth, Nat.max_le, ih, List.forall_mem_cons]

/-! ## Within the depth -/

theorem Value.Legible.startsOwn {value : Value} (legible : value.Legible) : value.StartsOwn := by
  cases legible with
  | null => exact ⟨'n', _, rfl, rfl, by decide⟩
  | bool b =>
      cases b with
      | false => exact ⟨'f', _, rfl, rfl, by decide⟩
      | true => exact ⟨'t', _, rfl, rfl, by decide⟩
  | string s => exact ⟨'"', _, rfl, rfl, by decide⟩
  | number n alone =>
      obtain ⟨c, rest, shape, starts, -⟩ := alone.starts
      refine ⟨c, rest, shape, starts.solid, ?_⟩
      rintro rfl
      exact absurd starts (by decide)
  | array items each => exact ⟨'[', _, rfl, rfl, by decide⟩
  | object members distinct each => exact Value.startsOwn_object members

-- By induction on the value; each container takes one of the levels that are left.
theorem Value.Legible.readsBack {value : Value} (legible : value.Legible) (depth : Nat)
    (room : depth + value.depth ≤ depthLimit) : ReadsBack depth value := by
  induction legible generalizing depth with
  | null => exact readsBack_null depth
  | bool b => exact readsBack_bool depth b
  | string s => exact readsBack_string depth s
  | number n alone => exact readsBack_legible depth n alone
  | array items each ih =>
      rw [Value.depth] at room
      have fits := (itemsDepth_le_iff items (depthLimit - (depth + 1))).mp (by omega)
      refine readsBack_array depth items (by omega) (fun item inside => (each item inside).startsOwn) ?_
      intro item inside
      exact ih item inside (depth + 1) (by have := fits item inside; omega)
  | object members distinct each ih =>
      rw [Value.depth] at room
      have fits := (membersDepth_le_iff members (depthLimit - (depth + 1))).mp (by omega)
      refine readsBack_object depth members (by omega) distinct fun member inside => ?_
      exact ih member inside (depth + 1) (by have := fits member inside; omega)

/-! ## Beyond it -/

mutual

/-- A tree at a depth whose containers beyond the limit of depths are closed to readers. -/
inductive Node.Within : Nat → Node → Prop where
  | broken (depth : Nat) (e : SyntaxError) (room : depth ≤ depthLimit) : Node.Within depth (.broken e)
  | null (depth : Nat) (first after : Option Place) (room : depth ≤ depthLimit) :
      Node.Within depth (.null first after)
  | bool (depth : Nat) (first after : Option Place) (b : Bool) (room : depth ≤ depthLimit) :
      Node.Within depth (.bool first after b)
  | number (depth : Nat) (first after : Option Place) (n : Except SyntaxError Number)
      (room : depth ≤ depthLimit) : Node.Within depth (.number first after n)
  | string (depth : Nat) (first after : Option Place) (s : Except SyntaxError String)
      (room : depth ≤ depthLimit) : Node.Within depth (.string first after s)
  | array (depth : Nat) (first : Option Place) (items : Items) (room : depth < depthLimit)
      (inner : Items.Within (depth + 1) items) : Node.Within depth (.array first none items)
  | closedArray (depth : Nat) (first : Option Place) (e : SyntaxError) (items : Items)
      (room : depth ≤ depthLimit) : Node.Within depth (.array first (some e) items)
  | object (depth : Nat) (first : Option Place) (entries : Entries) (room : depth < depthLimit)
      (inner : Entries.Within (depth + 1) entries) : Node.Within depth (.object first none entries)
  | closedObject (depth : Nat) (first : Option Place) (e : SyntaxError) (entries : Entries)
      (room : depth ≤ depthLimit) : Node.Within depth (.object first (some e) entries)

inductive Items.Within : Nat → Items → Prop where
  | done (depth : Nat) (after : Option Place) : Items.Within depth (.done after)
  | broken (depth : Nat) (e surplus : SyntaxError) : Items.Within depth (.broken e surplus)
  | more (depth : Nat) (surplus : Option SyntaxError) (item : Node) (rest : Items)
      (first : Node.Within depth item) (others : Items.Within depth rest) :
      Items.Within depth (.more surplus item rest)

inductive Entries.Within : Nat → Entries → Prop where
  | done (depth : Nat) (after : Option Place) : Entries.Within depth (.done after)
  | broken (depth : Nat) (e : SyntaxError) : Entries.Within depth (.broken e)
  | more (depth : Nat) (name : Except SyntaxError String) (after : Option Place) (value : Node)
      (rest : Entries) (first : Node.Within depth value) (others : Entries.Within depth rest) :
      Entries.Within depth (.more name after value rest)

end

theorem Members.mem_insert (name : String) (value : Value) (members : Members) (member : String × Value)
    (inside : member ∈ members.insert name value) : member ∈ members ∨ member.2 = value := by
  induction members with
  | nil => exact .inr (by rw [List.mem_singleton.mp inside])
  | cons first rest ih =>
      obtain ⟨key, old⟩ := first
      rw [insert] at inside
      split at inside
      · rcases List.mem_cons.mp inside with rfl | later
        · exact .inr rfl
        · exact .inl (List.mem_cons_of_mem _ later)
      · rcases List.mem_cons.mp inside with rfl | later
        · exact .inl List.mem_cons_self
        · exact (ih later).imp_left (List.mem_cons_of_mem _)

theorem Members.mem_ofList (pairs : List (String × Value)) (member : String × Value)
    (inside : member ∈ Members.ofList pairs) : ∃ pair ∈ pairs, pair.2 = member.2 := by
  have from_start : ∀ start : Members,
      member ∈ pairs.foldl (fun members pair => insert pair.1 pair.2 members) start →
      member ∈ start ∨ ∃ pair ∈ pairs, pair.2 = member.2 := by
    clear inside
    induction pairs with
    | nil => exact fun start inside => .inl inside
    | cons pair pairs ih =>
        intro start inside
        rcases ih _ inside with early | ⟨other, later, same⟩
        · rcases mem_insert pair.1 pair.2 start member early with old | same
          · exact .inl old
          · exact .inr ⟨pair, List.mem_cons_self, same.symm⟩
        · exact .inr ⟨other, List.mem_cons_of_mem _ later, same⟩
  exact (from_start [] inside).resolve_left List.not_mem_nil

mutual

/-- What can be read off a place at a depth leaves the limit of depths alone. -/
theorem Node.Within.depth_le : ∀ {depth : Nat} {node : Node}, node.Within depth → ∀ value,
    node.value = .ok value → depth + value.depth ≤ depthLimit
  | _, _, .broken _ _ _, value, read => by cases read
  | _, _, .null _ _ _ room, value, read => by
      cases read
      exact room
  | _, _, .bool _ _ _ _ room, value, read => by
      cases read
      exact room
  | _, _, .number _ _ _ n room, value, read => by
      obtain ⟨found, -, rfl⟩ := map_ok _ _ _ read
      exact room
  | _, _, .string _ _ _ s room, value, read => by
      obtain ⟨found, -, rfl⟩ := map_ok _ _ _ read
      exact room
  | _, _, .array depth first items room inner, value, read => by
      rw [Node.value] at read
      obtain ⟨values, each, rfl⟩ := map_ok _ _ _ read
      have fits := (itemsDepth_le_iff values (depthLimit - (depth + 1))).mpr fun value inside => by
        have := inner.depth_le 0 values each value inside
        omega
      rw [Value.depth]
      omega
  | _, _, .closedArray _ _ e _ _, value, read => by cases read
  | _, _, .object depth first entries room inner, value, read => by
      rw [Node.value] at read
      obtain ⟨pairs, each, rfl⟩ := map_ok _ _ _ read
      have fits := (membersDepth_le_iff (Members.ofList pairs) (depthLimit - (depth + 1))).mpr
        fun member inside => by
          obtain ⟨pair, listed, same⟩ := Members.mem_ofList pairs member inside
          have := inner.depth_le pairs each pair listed
          rw [← same]
          omega
      rw [Value.depth]
      omega
  | _, _, .closedObject _ _ e _ _, value, read => by cases read

theorem Items.Within.depth_le : ∀ {depth : Nat} {items : Items}, items.Within depth → ∀ index values,
    items.values index = .ok values → ∀ value ∈ values, depth + value.depth ≤ depthLimit
  | _, _, .done _ _, index, values, read => by
      cases read
      exact List.forall_mem_nil _
  | _, _, .broken _ _ _, index, values, read => by cases read
  | _, _, .more depth surplus item rest first others, index, values, read => by
      rw [Items.values] at read
      cases known : item.value with
      | error e =>
          rw [known] at read
          cases read
      | ok value =>
          rw [known] at read
          obtain ⟨later, each, rfl⟩ := map_ok _ _ _ read
          exact List.forall_mem_cons.mpr ⟨first.depth_le value known, others.depth_le _ later each⟩

theorem Entries.Within.depth_le : ∀ {depth : Nat} {entries : Entries}, entries.Within depth → ∀ pairs,
    entries.values = .ok pairs → ∀ pair ∈ pairs, depth + pair.2.depth ≤ depthLimit
  | _, _, .done _ _, pairs, read => by
      cases read
      exact List.forall_mem_nil _
  | _, _, .broken _ _, pairs, read => by cases read
  | _, _, .more depth (.error e) after value rest first others, pairs, read => by
      rw [Entries.values] at read
      cases read
  | _, _, .more depth (.ok name) after value rest first others, pairs, read => by
      rw [Entries.values] at read
      cases known : value.value with
      | error e =>
          rw [known] at read
          cases read
      | ok value =>
          rw [known] at read
          obtain ⟨later, each, rfl⟩ := map_ok _ _ _ read
          exact List.forall_mem_cons.mpr ⟨first.depth_le value known, others.depth_le later each⟩

end

theorem Node.within_array (depth : Nat) (first : Option Place) (e : SyntaxError) (items : Items)
    (room : depth ≤ depthLimit) (inner : depth < depthLimit → items.Within (depth + 1)) :
    (Node.array first (if depth < depthLimit then none else some e) items).Within depth := by
  split
  · rename_i inside
    exact .array depth first items inside (inner inside)
  · exact .closedArray depth first e items room

theorem Node.within_object (depth : Nat) (first : Option Place) (e : SyntaxError) (entries : Entries)
    (room : depth ≤ depthLimit) (inner : depth < depthLimit → entries.Within (depth + 1)) :
    (Node.object first (if depth < depthLimit then none else some e) entries).Within depth := by
  split
  · rename_i inside
    exact .object depth first entries inside (inner inside)
  · exact .closedObject depth first e entries room

theorem nodeAt_step (fuel depth : Nat) (cur : Cursor) (room : depth ≤ depthLimit)
    (items : ∀ depth isFirst cur, depth ≤ depthLimit → (itemsAt fuel depth isFirst cur).1.Within depth)
    (entries : ∀ depth isFirst cur, depth ≤ depthLimit →
      (entriesAt fuel depth isFirst cur).1.Within depth) :
    (nodeAt (fuel + 1) depth cur).1.Within depth := by
  have broken : ∀ e, (Node.broken e).Within depth := fun e => .broken depth e room
  rw [nodeAt]
  dsimp only
  split
  · exact broken _
  · split
    · split
      · exact .null depth _ _ room
      · exact broken _
    · split
      · exact .bool depth _ _ _ room
      · exact broken _
    · split
      · exact .bool depth _ _ _ room
      · exact broken _
    · split
      · exact .string depth _ _ _ room
      · exact broken _
    · exact Node.within_array depth _ _ _ room fun inside => items (depth + 1) true _ inside
    · exact Node.within_object depth _ _ _ room fun inside => entries (depth + 1) true _ inside
    · split
      · split
        · exact broken _
        · exact .number depth _ _ _ room
      · exact broken _

theorem itemsAt_step (fuel depth : Nat) (isFirst : Bool) (cur : Cursor)
    (nodes : ∀ cur, (nodeAt fuel depth cur).1.Within depth)
    (items : ∀ isFirst cur, (itemsAt fuel depth isFirst cur).1.Within depth) :
    (itemsAt (fuel + 1) depth isFirst cur).1.Within depth := by
  rw [itemsAt]
  dsimp only
  split
  · exact Items.Within.broken depth _ _
  · exact Items.Within.done depth _
  · split
    · exact Items.Within.broken depth _ _
    · split
      · exact Items.Within.more depth _ _ _ (nodes _) (Items.Within.broken depth _ _)
      · exact Items.Within.more depth _ _ _ (nodes _) (items _ _)

theorem entriesAt_step (fuel depth : Nat) (isFirst : Bool) (cur : Cursor) (room : depth ≤ depthLimit)
    (nodes : ∀ cur, (nodeAt fuel depth cur).1.Within depth)
    (entries : ∀ isFirst cur, (entriesAt fuel depth isFirst cur).1.Within depth) :
    (entriesAt (fuel + 1) depth isFirst cur).1.Within depth := by
  rw [entriesAt]
  dsimp only
  split
  · exact Entries.Within.broken depth _
  · exact Entries.Within.done depth _
  · split
    · exact Entries.Within.broken depth _
    · split
      · exact Entries.Within.broken depth _
      · split
        · split
          · exact Entries.Within.more depth _ _ _ _ (nodes _) (Entries.Within.broken depth _)
          · exact Entries.Within.more depth _ _ _ _ (nodes _) (entries _ _)
        · exact Entries.Within.more depth _ _ _ _ (.broken depth _ room) (Entries.Within.broken depth _)
        · exact Entries.Within.more depth _ _ _ _ (.broken depth _ room) (Entries.Within.broken depth _)

-- By induction on the fuel; only the first step into a container can go beyond the limit.
theorem nodeAt_within (fuel : Nat) :
    (∀ depth cur, depth ≤ depthLimit → (nodeAt fuel depth cur).1.Within depth) ∧
    (∀ depth isFirst cur, depth ≤ depthLimit → (itemsAt fuel depth isFirst cur).1.Within depth) ∧
    (∀ depth isFirst cur, depth ≤ depthLimit → (entriesAt fuel depth isFirst cur).1.Within depth) := by
  induction fuel with
  | zero =>
      refine ⟨fun depth cur room => ?_, fun depth isFirst cur room => ?_, fun depth isFirst cur room => ?_⟩
      · rw [nodeAt]
        exact .broken depth _ room
      · rw [itemsAt]
        exact Items.Within.broken depth _ _
      · rw [entriesAt]
        exact Entries.Within.broken depth _
  | succ fuel ih =>
      obtain ⟨nodes, items, entries⟩ := ih
      refine ⟨fun depth cur room => nodeAt_step fuel depth cur room items entries,
        fun depth isFirst cur room => ?_, fun depth isFirst cur room => ?_⟩
      · exact itemsAt_step fuel depth isFirst cur (nodes depth · room) (items depth · · room)
      · exact entriesAt_step fuel depth isFirst cur room (nodes depth · room) (entries depth · · room)

theorem ofChars_within (text : List Char) : (Document.ofChars text).root.Within 0 :=
  (nodeAt_within (2 * text.length + 2)).1 0 (.start text) (Nat.zero_le _)

theorem Document.read_ok (document : Document) (read : Node → Except ReadError α) (value : α)
    (done : document.read read = .ok value) : read document.root = .ok value := by
  unfold Document.read at done
  split at done
  · cases done
  · cases done
  · cases done
    assumption

theorem parse_depth (text : List Char) (value : Value) (read : parse text = .ok value) :
    value.depth ≤ depthLimit := by
  have bound := (ofChars_within text).depth_le value (Document.read_ok _ _ value read)
  omega

/-- What is printed of a legible value is read as that value, just when it is not too deep. -/
theorem parse_legible_iff (value : Value) (legible : value.Legible) :
    parse value.chars = .ok value ↔ value.depth ≤ depthLimit := by
  constructor
  · exact parse_depth value.chars value
  · intro room
    obtain ⟨node, tree, denotes⟩ := ofChars_printed value (legible.readsBack 0 (by omega))
    simp only [parse, tree, Document.read, denotes.value_ok]

theorem parse_chars_iff (value : Value) (exact : value.Exact) :
    parse value.chars = .ok value ↔ value.depth ≤ depthLimit :=
  parse_legible_iff value exact.legible

end AccessGate.Json
