import AccessGate.Proofs.Json.Printed

/-!
Readers of values. They go by the value alone, whether it is given or a tree without faults stands for it, and
what they give is of their kind.
-/

namespace AccessGate.Json

open Reader

/-! ## Nodes that stand for a value -/

/-- The node was given as the value, or is a tree without faults that stands for it. -/
def Node.Stands (node : Node) (value : Value) : Prop := node = .given value ∨ node.Denotes value

mutual

theorem Node.Denotes.skipped_ok : ∀ {node : Node} {value : Value}, node.Denotes value →
    node.skipped = .ok ()
  | _, _, .null _ _ => rfl
  | _, _, .bool _ _ _ => rfl
  | _, _, .number _ _ _ => rfl
  | _, _, .string _ _ _ => rfl
  | _, _, .object first entries members distinct each => by rw [Node.skipped, each.skipped_ok]
  | _, _, .array first items values each => by rw [Node.skipped, each.skipped_ok]

theorem Items.Denote.skipped_ok : ∀ {items : Items} {values : List Value}, items.Denote values →
    items.skipped = .ok ()
  | _, _, .done _ => rfl
  | _, _, .more surplus node value rest values first others => by
      rw [Items.skipped, first.skipped_ok, others.skipped_ok]

theorem Entries.Denote.skipped_ok : ∀ {entries : Entries} {members : Members}, entries.Denote members →
    entries.skipped = .ok ()
  | _, _, .done _ => rfl
  | _, _, .more name after node value rest members first others => by
      rw [Entries.skipped, first.skipped_ok, others.skipped_ok]

end

/-! ## Readers that go by the value -/

theorem toOption_map (result : Except ε α) (f : α → β) :
    (result.map f).toOption = result.toOption.map f := by
  cases result with
  | error e => rfl
  | ok value => rfl

theorem toOption_bind (result : Except ε α) (next : α → Except ε β) :
    (result.bind next).toOption = result.toOption.bind fun value => (next value).toOption := by
  cases result with
  | error e => rfl
  | ok value => rfl

theorem toOption_eq_some_iff (result : Except ε α) (value : α) :
    result.toOption = some value ↔ result = .ok value := by
  cases result with
  | error e => exact ⟨nofun, nofun⟩
  | ok found =>
      simp only [Except.toOption, Option.some.injEq, Except.ok.injEq]

namespace Reader

/-- Whatever stands for a value is read like the value itself. -/
def ByValue (read : Reader) : Prop :=
  ∀ node value, node.Stands value → (read node).toOption = (read (.given value)).toOption

theorem ByValue.ok {read : Reader} (byValue : ByValue read) {node : Node} {value result : Value}
    (stands : node.Stands value) (given : read (.given value) = .ok result) : read node = .ok result := by
  rw [← toOption_eq_some_iff, byValue node value stands, given]
  rfl

theorem byValue_string : ByValue string := by
  rintro node value (rfl | denotes)
  · rfl
  · cases denotes <;> rfl

theorem byValue_flag : ByValue flag := by
  rintro node value (rfl | denotes)
  · rfl
  · cases denotes <;> rfl

theorem byValue_members : ByValue members := by
  rintro node value (rfl | denotes)
  · rfl
  · have whole := denotes.value_ok
    cases denotes with
    | object first entries members distinct each => exact congrArg Except.toOption whole
    | _ => rfl

theorem byValue_maybe (read : Reader) (inner : ByValue read) : ByValue (maybe read) := by
  rintro node value (rfl | denotes)
  · rfl
  · have same := inner node value (.inr denotes)
    cases denotes with
    | null first after => rfl
    | _ => exact same

theorem nothing_byValue (node : Node) (value : Value) (denotes : node.Denotes value) :
    (nothing node).toOption = (nothing (.given value)).toOption := by
  cases denotes <;> rfl

theorem known_toOption (names : List String) (place : Option Place) (name : String) :
    (known names place name).toOption = if names.contains name then some (.string name) else none := by
  unfold known
  split
  · rfl
  · rfl

theorem soleName_single (names : List String) (isText : Bool) (name : String) (place last : Option Place)
    (node : Node) :
    soleName names isText (.more (.ok name) place node (.done last)) =
      (known names place name).bind fun chosen => (nothing node).bind fun _ => .ok chosen := by
  cases isText <;> rfl

theorem soleName_several (names : List String) (isText : Bool) (name : String) (place : Option Place)
    (node : Node) (other : Except SyntaxError String) (behind : Option Place) (next : Node) (rest : Entries) :
    (soleName names isText (.more (.ok name) place node (.more other behind next rest))).toOption = none := by
  cases isText with
  | false => rfl
  | true =>
      have steps : soleName names true (.more (.ok name) place node (.more other behind next rest)) =
          (known names place name).bind fun _ => (nothing node).bind fun _ =>
            objectAt (ending node) (.fault .valueExpected) := rfl
      rw [steps]
      cases known names place name with
      | error e => rfl
      | ok chosen => cases nothing node <;> rfl

-- A single member is a name with nothing behind it; any other number of them is refused.
theorem soleName_byValue (names : List String) (isText : Bool) (entries : Entries) (members : Members)
    (denote : entries.Denote members) :
    (soleName names isText entries).toOption =
      (soleName names false (Entries.ofMembers members)).toOption := by
  cases denote with
  | done after => cases isText <;> rfl
  | more name after node value rest members first others =>
      cases others with
      | done last =>
          simp only [Entries.ofMembers, soleName_single, toOption_bind, known_toOption,
            nothing_byValue node value first]
      | more other behind next said rest members _ _ =>
          simp only [Entries.ofMembers, soleName_several]

theorem byValue_choice (names : List String) : ByValue (choice names) := by
  rintro node value (rfl | denotes)
  · rfl
  · cases denotes with
    | object first entries members distinct each => exact soleName_byValue names _ entries members each
    | string first after s =>
        simp only [choice, Node.opened, located_ok, Except.bind, known]
        split
        · rfl
        · rfl
    | null first after => cases first <;> rfl
    | bool first after b => cases first <;> rfl
    | number first after n => cases first <;> rfl
    | array first items values each => cases first <;> rfl

theorem itemsWith_more (read : Reader) (index : Nat) (surplus : Option SyntaxError) (item : Node)
    (rest : Items) :
    (itemsWith read index (.more surplus item rest)).toOption =
      (read item).toOption.bind fun first =>
        (itemsWith read (index + 1) rest).toOption.map (first :: ·) := by
  rw [itemsWith]
  cases read item with
  | error e => rfl
  | ok first => exact toOption_map _ _

theorem itemsWith_byValue (read : Reader) (inner : ByValue read) (items : Items) (values : List Value)
    (denote : items.Denote values) (index : Nat) :
    (itemsWith read index items).toOption = (itemsWith read index (Items.ofValues values)).toOption := by
  induction values generalizing items index with
  | nil =>
      cases denote with
      | done after => rfl
  | cons value values ih =>
      cases denote with
      | more surplus node _ rest _ first others =>
          rw [Items.ofValues, itemsWith_more, itemsWith_more, inner node value (.inr first)]
          simp only [ih rest others (index + 1)]

theorem byValue_list (read : Reader) (inner : ByValue read) : ByValue (list read) := by
  rintro node value (rfl | denotes)
  · rfl
  · cases denotes with
    | array first items values each =>
        have same := itemsWith_byValue read inner items values each 0
        simp only [list, Node.opened, toOption_map, same]
    | _ => rfl

end Reader

/-! ## What is read -/

theorem unwanted_error (expected : String) (node : Node) (value : α) :
    node.unwanted expected ≠ .ok value := by
  cases node with
  | number first after n =>
      cases n with
      | error e => exact nofun
      | ok n => exact nofun
  | string first after s =>
      cases s with
      | error e => exact nofun
      | ok s => exact nofun
  | _ => exact nofun

theorem string_ok (node : Node) (value : Value) (read : string node = .ok value) :
    ∃ s, value = .string s := by
  unfold string text at read
  split at read
  · obtain ⟨s, -, rfl⟩ := map_ok _ _ _ read
    exact ⟨s, rfl⟩
  · exact absurd read (unwanted_error _ _ _)

theorem flag_ok (node : Node) (value : Value) (read : flag node = .ok value) :
    ∃ first after b, node.opened = .bool first after b ∧ value = .bool b := by
  unfold flag at read
  split at read
  · rename_i first after b opened
    cases read
    exact ⟨first, after, b, opened, rfl⟩
  · exact absurd read (unwanted_error _ _ _)

theorem members_ok (node : Node) (value : Value) (read : members node = .ok value) :
    ∃ first entries m, node.opened = .object first none entries ∧ value = .object m := by
  unfold members at read
  split at read
  · cases read
    exact ⟨none, _, _, rfl, rfl⟩
  · split at read
    · rename_i first deep entries opened
      cases deep with
      | some e => cases read
      | none =>
          obtain ⟨pairs, -, rfl⟩ := map_ok _ _ _ read
          exact ⟨first, entries, _, opened, rfl⟩
    · exact absurd read (unwanted_error _ _ _)

theorem itemsWith_string_ok (index : Nat) (items : Items) (values : List Value)
    (read : itemsWith string index items = .ok values) : ∃ texts : List String, values = texts.map .string := by
  fun_induction itemsWith string index items generalizing values with
  | case1 index after =>
      cases read
      exact ⟨[], rfl⟩
  | case2 index e surplus => cases read
  | case3 index surplus item rest e failed => cases read
  | case4 index surplus item rest first done ih =>
      obtain ⟨others, later, rfl⟩ := map_ok _ _ _ read
      obtain ⟨s, rfl⟩ := string_ok item first done
      obtain ⟨texts, rfl⟩ := ih others later
      exact ⟨s :: texts, rfl⟩

theorem strings_ok (node : Node) (value : Value) (read : list string node = .ok value) :
    ∃ first items texts, node.opened = .array first none items ∧ value = .strings texts := by
  unfold list at read
  split at read
  · rename_i first items opened
    obtain ⟨values, all, rfl⟩ := map_ok _ _ _ read
    obtain ⟨texts, rfl⟩ := itemsWith_string_ok 0 items values all
    exact ⟨first, items, texts, opened, rfl⟩
  · cases read
  · exact absurd read (unwanted_error _ _ _)

theorem known_ok (names : List String) (place : Option Place) (name : String) (value : Value)
    (read : known names place name = .ok value) : ∃ chosen ∈ names, value = .string chosen := by
  unfold known at read
  split at read
  · rename_i inside
    cases read
    exact ⟨name, by simpa using inside, rfl⟩
  · cases read

theorem bind_ok (result : Except ε α) (next : α → Except ε β) (value : β)
    (read : result.bind next = .ok value) : ∃ inner, result = .ok inner ∧ next inner = .ok value := by
  cases result with
  | error e => cases read
  | ok inner => exact ⟨inner, rfl, read⟩

theorem soleName_ok (names : List String) (isText : Bool) (entries : Entries) (value : Value)
    (read : soleName names isText entries = .ok value) : ∃ chosen ∈ names, value = .string chosen := by
  unfold soleName at read
  split at read
  · split at read <;> cases read
  · cases read
  · split at read
    · cases read
    · obtain ⟨name, -, read⟩ := bind_ok _ _ _ read
      obtain ⟨found, chosen, read⟩ := bind_ok _ _ _ read
      obtain ⟨-, -, read⟩ := bind_ok _ _ _ read
      split at read
      · cases read
        exact known_ok names _ name value chosen
      · cases read
      · cases read

theorem choice_ok (names : List String) (node : Node) (value : Value)
    (read : choice names node = .ok value) : ∃ chosen ∈ names, value = .string chosen := by
  unfold choice at read
  split at read
  · obtain ⟨name, -, read⟩ := bind_ok _ _ _ read
    exact known_ok names _ name value read
  · cases read
  · exact soleName_ok names _ _ value read
  · cases read
  · split at read
    · cases read
    · exact absurd read (unwanted_error _ _ _)

end AccessGate.Json
