import AccessGate.Proofs.Json.RecordForm
import AccessGate.Settings.Load

/-!
Full records of settings: what reading a configuration yields has a value of the right kind under every name,
and settings are their full record.
-/

namespace AccessGate.Settings

open Json
open Config (Tree)

/-! ## Kinds -/

/-- The values that a setting of a kind can have. -/
def Kind.Has : Kind → Value → Prop
  | .text, value => ∃ s, value = .string s
  | .path, value => ∃ s, value = .string s
  | .natural _ _, value => ∃ n, value = .ofNat n
  | .flag, value => ∃ b, value = .bool b
  | .texts, value => ∃ items, value = .strings items
  | .choice _ names, value => ∃ name ∈ names, value = .string name

theorem named_ok (title : String) (names : List String) (name found : String)
    (read : Tree.named title names name = .ok found) : found ∈ names := by
  unfold Tree.named at read
  split at read
  · rename_i known inside
    cases read
    exact List.mem_of_find?_eq_some inside
  · cases read

theorem choice_ok (title : String) (names : List String) (tree : Tree) (found : String)
    (read : tree.choice title names = .ok found) : found ∈ names := by
  unfold Tree.choice at read
  split at read
  · exact named_ok _ _ _ _ read
  · exact named_ok _ _ _ _ read
  · cases read

theorem Kind.convert_has (kind : Kind) (tree : Tree) (value : Value) (read : kind.convert tree = .ok value) :
    kind.Has value := by
  unfold convert at read
  split at read
  all_goals obtain ⟨inner, found, rfl⟩ := map_ok _ _ _ read
  case h_7 => exact ⟨inner, choice_ok _ _ _ _ found, rfl⟩
  all_goals exact ⟨inner, rfl⟩

/-- The values that a setting can have. -/
def Entry.Has (entry : Entry) (value : Value) : Prop :=
  entry.kind.Has value ∨ entry.isOptional = true ∧ value = .null

theorem Entry.convert_has (entry : Entry) (tree : Tree) (value : Value) (read : entry.convert tree = .ok value) :
    entry.Has value := by
  unfold convert at read
  split at read
  · cases read
    exact .inr ⟨‹_›, rfl⟩
  · exact .inl (Kind.convert_has _ _ _ read)

/-- What stands for a setting that is missing is one of its values. -/
def Entry.Sound (entry : Entry) : Prop := ∀ value, entry.absent = some value → entry.Has value

theorem sound_schema : ∀ s ∈ schema, ∀ entry ∈ s.entries, entry.Sound := by
  have plain : ∀ entry : Entry, entry.absent = none → entry.Sound := by
    intro entry none_ value found
    cases none_.symm.trans found
  have preset : ∀ (entry : Entry) (value : Value), entry.absent = some value → entry.Has value →
      entry.Sound := by
    intro entry value known has other found
    cases known.symm.trans found
    exact has
  simp only [schema, keysSection, corsSection, List.forall_mem_cons, List.not_mem_nil, false_implies,
    implies_true, and_true]
  refine ⟨⟨plain _ rfl, plain _ rfl, plain _ rfl⟩, plain _ rfl,
    ⟨plain _ rfl, plain _ rfl, plain _ rfl, plain _ rfl⟩, ⟨plain _ rfl, plain _ rfl, plain _ rfl, plain _ rfl⟩,
    ⟨plain _ rfl, plain _ rfl, plain _ rfl, plain _ rfl, plain _ rfl, plain _ rfl, plain _ rfl⟩,
    ⟨plain _ rfl, plain _ rfl⟩, preset _ _ rfl (.inl ⟨false, rfl⟩), preset _ _ rfl (.inl ⟨[], rfl⟩),
    preset _ _ rfl (.inl ⟨[], rfl⟩), preset _ _ rfl (.inl ⟨[], rfl⟩), preset _ _ rfl (.inl ⟨false, rfl⟩),
    preset _ _ rfl (.inr ⟨rfl, rfl⟩)⟩

theorem Entry.missing_has (entry : Entry) (sound : entry.Sound) (value : Value)
    (read : entry.missing = .ok value) : entry.Has value := by
  unfold missing at read
  split at read
  · cases read
    exact sound _ ‹_›
  · split at read
    · cases read
      exact .inr ⟨‹_›, rfl⟩
    · cases read

/-! ## Reading -/

/-- What is read of a setting when this is found of it. -/
def Entry.readFound (entry : Entry) : Option Tree → Except Config.Error Value
  | some tree => entry.convert tree
  | none => entry.missing

/-- What is read of a section when this is found of it. -/
def Section.readFound (s : Section) : Option Tree → Except Config.Error Value
  | some tree => (s.convert tree).map .object
  | none => s.missing

theorem Entry.readFound_has (entry : Entry) (sound : entry.Sound) (found : Option Tree) (value : Value)
    (read : entry.readFound found = .ok value) : entry.Has value := by
  cases found with
  | none => exact entry.missing_has sound value read
  | some tree => exact entry.convert_has tree value read

-- By induction on the list. Settings in a section and sections in a configuration are read alike.
theorem readAll_ok_iff (nameOf : α → String) (read : α → Except Config.Error Value)
    (readAll : List α → Except Config.Error Members) (none_ : readAll [] = .ok [])
    (each : ∀ first rest, readAll (first :: rest) =
      (read first).bind fun value => (readAll rest).map ((nameOf first, value) :: ·))
    (list : List α) (members : Members) :
    readAll list = .ok members ↔
      List.Forall₂ (fun item member => member.1 = nameOf item ∧ read item = .ok member.2) list members := by
  induction list generalizing members with
  | nil =>
      rw [List.forall₂_nil_left_iff, none_]
      exact ⟨fun same => by cases same; rfl, fun same => same ▸ rfl⟩
  | cons first rest ih =>
      rw [each]
      constructor
      · intro done
        obtain ⟨value, here, rest_⟩ := bind_ok _ _ _ done
        obtain ⟨others, later, rfl⟩ := map_ok _ _ _ rest_
        exact .cons ⟨rfl, here⟩ ((ih others).mp later)
      · intro done
        cases done with
        | cons here later =>
            rename_i member others
            obtain ⟨name, value⟩ := member
            obtain ⟨rfl, here⟩ := here
            rw [here]
            exact congrArg (Except.map ((nameOf first, value) :: ·)) ((ih others).mpr later)

theorem convertEntries_ok_iff (entries : Config.Entries) (list : List Entry) (members : Members) :
    convertEntries entries list = .ok members ↔
      List.Forall₂ (fun entry member => member.1 = entry.name ∧
        entry.readFound (entries.get? entry.name) = .ok member.2) list members := by
  let said (entry : Entry) : Except Config.Error Value :=
    (entries.get? entry.name).elim entry.missing fun tree =>
      (entry.convert tree).mapError (Config.Error.under (.member entry.name))
  have same : ∀ entry value, said entry = .ok value ↔
      entry.readFound (entries.get? entry.name) = .ok value := by
    intro entry value
    simp only [said]
    cases entries.get? entry.name with
    | none => exact Iff.rfl
    | some tree => exact mapError_ok _ _ _
  simp only [← same]
  refine readAll_ok_iff Entry.name said (convertEntries entries) rfl (fun first rest => ?_) list members
  simp only [convertEntries, said]
  cases entries.get? first.name with
  | none =>
      simp only [Option.elim_none]
      cases first.missing <;> rfl
  | some tree =>
      simp only [Option.elim_some]
      cases (first.convert tree).mapError (Config.Error.under (.member first.name)) <;> rfl

theorem convertSections_ok_iff (entries : Config.Entries) (list : List Section) (full : Members) :
    convertSections entries list = .ok full ↔
      List.Forall₂ (fun s member => member.1 = s.name ∧
        s.readFound (entries.get? s.name) = .ok member.2) list full := by
  let said (s : Section) : Except Config.Error Value :=
    (entries.get? s.name).elim s.missing fun tree =>
      ((s.convert tree).map Value.object).mapError (Config.Error.under (.member s.name))
  have same : ∀ s value, said s = .ok value ↔ s.readFound (entries.get? s.name) = .ok value := by
    intro s value
    simp only [said]
    cases entries.get? s.name with
    | none => exact Iff.rfl
    | some tree => exact mapError_ok _ _ _
  simp only [← same]
  refine readAll_ok_iff Section.name said (convertSections entries) rfl (fun first rest => ?_) list full
  simp only [convertSections, said]
  cases entries.get? first.name with
  | none =>
      simp only [Option.elim_none]
      cases first.missing <;> rfl
  | some tree =>
      simp only [Option.elim_some]
      cases ((first.convert tree).map Value.object).mapError (Config.Error.under (.member first.name)) <;> rfl

/-- What a list of values says of the settings of a section, in their order. -/
inductive Listed : List Entry → List Tree → Members → Prop where
  | done (trees : List Tree) : Listed [] trees []
  | item (entry : Entry) (entries : List Entry) (tree : Tree) (trees : List Tree) (value : Value)
      (members : Members) (read : entry.convert tree = .ok value) (others : Listed entries trees members) :
      Listed (entry :: entries) (tree :: trees) ((entry.name, value) :: members)
  | absent (entry : Entry) (entries : List Entry) (value : Value) (members : Members)
      (preset : entry.absent = some value) (others : Listed entries [] members) :
      Listed (entry :: entries) [] ((entry.name, value) :: members)

theorem listed_of_convertItems (expected : String) (index : Nat) (entries : List Entry) (trees : List Tree)
    (members : Members) (read : convertItems expected index entries trees = .ok members) :
    Listed entries trees members := by
  induction entries generalizing index trees members with
  | nil =>
      cases read
      exact .done trees
  | cons entry rest ih =>
      cases trees with
      | nil =>
          simp only [convertItems] at read
          split at read
          · obtain ⟨others, later, rfl⟩ := map_ok _ _ _ read
            exact .absent entry rest _ others ‹_› (ih _ _ _ later)
          · cases read
      | cons tree trees =>
          simp only [convertItems] at read
          split at read
          · cases read
          · obtain ⟨others, later, rfl⟩ := map_ok _ _ _ read
            exact .item entry rest tree trees _ others ‹_› (ih _ _ _ later)

/-! ## Records -/

def Filled (entries : List Entry) (members : Members) : Prop :=
  List.Forall₂ (fun entry member => member.1 = entry.name ∧ entry.Has member.2) entries members

theorem filled_nil_iff (members : Members) : Filled [] members ↔ members = [] := List.forall₂_nil_left_iff

theorem filled_cons_iff (entry : Entry) (rest : List Entry) (members : Members) :
    Filled (entry :: rest) members ↔ ∃ value others, entry.Has value ∧ Filled rest others ∧
      members = (entry.name, value) :: others := by
  rw [Filled, List.forall₂_cons_left_iff]
  constructor
  · rintro ⟨⟨name, value⟩, others, ⟨rfl, has⟩, filled, rfl⟩
    exact ⟨value, others, has, filled, rfl⟩
  · rintro ⟨value, others, has, filled, rfl⟩
    exact ⟨(entry.name, value), others, ⟨rfl, has⟩, filled, rfl⟩

theorem Listed.filled {entries : List Entry} {trees : List Tree} {members : Members}
    (listed : Listed entries trees members) (sound : ∀ entry ∈ entries, entry.Sound) :
    Filled entries members := by
  induction listed with
  | done trees => exact .nil
  | item entry entries tree trees value members read others ih =>
      obtain ⟨-, later⟩ := List.forall_mem_cons.mp sound
      exact .cons ⟨rfl, entry.convert_has tree value read⟩ (ih later)
  | absent entry entries value members preset others ih =>
      obtain ⟨here, later⟩ := List.forall_mem_cons.mp sound
      exact .cons ⟨rfl, here value preset⟩ (ih later)

theorem optional_text_iff (value : Value) :
    ((∃ s, value = .string s) ∨ value = .null) ↔ ∃ s, value = .ofOption s := by
  constructor
  · rintro (⟨s, rfl⟩ | rfl)
    · exact ⟨some s, rfl⟩
    · exact ⟨none, rfl⟩
  · rintro ⟨_ | s, rfl⟩
    · exact .inr rfl
    · exact .inl ⟨s, rfl⟩

theorem optional_natural_iff (value : Value) :
    ((∃ n, value = .ofNat n) ∨ value = .null) ↔ ∃ n, value = natural? n := by
  constructor
  · rintro (⟨n, rfl⟩ | rfl)
    · exact ⟨some n, rfl⟩
    · exact ⟨none, rfl⟩
  · rintro ⟨_ | n, rfl⟩
    · exact .inr rfl
    · exact .inl ⟨n, rfl⟩

theorem StoreKind.name_ofName (name : String) (known : name ∈ StoreKind.all.map StoreKind.name) :
    (StoreKind.ofName name).name = name := by
  obtain ⟨kind, -, rfl⟩ := List.mem_map.mp known
  cases kind <;> decide

theorem KeyChoice.name_ofName (name : String) (known : name ∈ KeyChoice.all.map KeyChoice.name) :
    (KeyChoice.ofName name).name = name := by
  obtain ⟨kind, -, rfl⟩ := List.mem_map.mp known
  cases kind <;> decide

theorem text?_ofOption (s : Option String) : (Value.ofOption s).text? = s := by
  cases s <;> rfl

theorem natural?_natural? (n : Option Nat) : (natural? n).natural? = n := by
  cases n <;> rfl

theorem natural?_ofNat (n : Nat) : (Value.ofNat n).natural? = some n := rfl

theorem text?_string (s : String) : (Value.string s).text? = some s := rfl

theorem members?_object (members : Members) : (Value.object members).members? = some members := rfl

section Sections

variable (members : Members)

theorem server_filled
    (filled : Filled [required "host" .text, required "proxy_port" port, required "api_port" port] members) :
    [("host", .string (serverOf members).host), ("proxy_port", .ofNat (serverOf members).proxyPort),
      ("api_port", .ofNat (serverOf members).apiPort)] = members := by
  simp only [filled_cons_iff, filled_nil_iff, Entry.Has, required, port, Kind.Has, Bool.false_eq_true,
    false_and, or_false] at filled
  obtain ⟨_, _, ⟨host, rfl⟩, ⟨_, _, ⟨proxy, rfl⟩, ⟨_, _, ⟨api, rfl⟩, rfl, rfl⟩, rfl⟩, rfl⟩ := filled
  simp [serverOf, Members.text, Members.natural, Members.get?_first, Members.get?_behind, text?_string,
    natural?_ofNat]

theorem backend_filled (filled : Filled [required "url" .text] members) :
    [("url", .string (members.text "url"))] = members := by
  simp only [filled_cons_iff, filled_nil_iff, Entry.Has, required, Kind.Has, Bool.false_eq_true, false_and,
    or_false] at filled
  obtain ⟨_, _, ⟨url, rfl⟩, rfl, rfl⟩ := filled
  simp [Members.text, Members.get?_first, text?_string]

theorem rules_filled
    (filled : Filled [required "store" (.choice "RuleStoreKind" (StoreKind.all.map StoreKind.name)),
      optional "path" .path, optional "url" .text, required "refresh_interval_secs" number] members) :
    [("store", .string (rulesOf members).store.name), ("path", .ofOption (rulesOf members).path),
      ("url", .ofOption (rulesOf members).url),
      ("refresh_interval_secs", .ofNat (rulesOf members).refreshSeconds)] = members := by
  simp only [filled_cons_iff, filled_nil_iff, Entry.Has, required, optional, number, Kind.Has,
    Bool.false_eq_true, false_and, or_false, true_and, optional_text_iff] at filled
  obtain ⟨_, _, ⟨store, known, rfl⟩, ⟨_, _, ⟨path, rfl⟩, ⟨_, _, ⟨url, rfl⟩, ⟨_, _, ⟨seconds, rfl⟩, rfl, rfl⟩,
    rfl⟩, rfl⟩, rfl⟩ := filled
  have named := StoreKind.name_ofName store known
  simp [rulesOf, Members.text, Members.text?, Members.natural, Members.get?_first, Members.get?_behind,
    text?_ofOption, natural?_ofNat, text?_string, named]

theorem policy_filled
    (filled : Filled [optional "introspection_url" .text, optional "authorization_url" .text,
      optional "service_token" .text, required "timeout_secs" number] members) :
    [("introspection_url", .ofOption (policyOf members).endpoints.introspectionUrl),
      ("authorization_url", .ofOption (policyOf members).endpoints.authorizationUrl),
      ("service_token", .ofOption (policyOf members).endpoints.serviceToken),
      ("timeout_secs", .ofNat (policyOf members).timeoutSeconds)] = members := by
  simp only [filled_cons_iff, filled_nil_iff, Entry.Has, required, optional, number, Kind.Has,
    Bool.false_eq_true, false_and, or_false, true_and, optional_text_iff] at filled
  obtain ⟨_, _, ⟨introspection, rfl⟩, ⟨_, _, ⟨authorization, rfl⟩, ⟨_, _, ⟨token, rfl⟩, ⟨_, _, ⟨seconds, rfl⟩,
    rfl, rfl⟩, rfl⟩, rfl⟩, rfl⟩ := filled
  simp [policyOf, Members.text?, Members.natural, Members.get?_first, Members.get?_behind, text?_ofOption,
    natural?_ofNat]

theorem keys_filled (filled : Filled keysSection.entries members) :
    [("algorithm", .string (keysOf members).choice.name), ("key_strength", .ofNat (keysOf members).bits),
      ("key_id", .ofOption (keysOf members).id), ("remote_url", .ofOption (keysOf members).remoteUrl),
      ("set_id", .string (keysOf members).set), ("shared_secret", .ofOption (keysOf members).secret),
      ("refresh_interval_secs", .ofNat (keysOf members).refreshSeconds)] = members := by
  simp only [keysSection, filled_cons_iff, filled_nil_iff, Entry.Has, required, optional, number, size, Kind.Has,
    Bool.false_eq_true, false_and, or_false, true_and, optional_text_iff] at filled
  obtain ⟨_, _, ⟨choice, known, rfl⟩, ⟨_, _, ⟨bits, rfl⟩, ⟨_, _, ⟨id, rfl⟩, ⟨_, _, ⟨remote, rfl⟩,
    ⟨_, _, ⟨set_, rfl⟩, ⟨_, _, ⟨secret, rfl⟩, ⟨_, _, ⟨seconds, rfl⟩, rfl, rfl⟩, rfl⟩, rfl⟩, rfl⟩, rfl⟩, rfl⟩,
    rfl⟩ := filled
  have named := KeyChoice.name_ofName choice known
  simp [keysOf, Members.text, Members.text?, Members.natural, Members.get?_first, Members.get?_behind,
    text?_ofOption, natural?_ofNat, text?_string, named]

theorem credentials_filled
    (filled : Filled [required "issuer" .text, required "lifespan_secs" number] members) :
    [("issuer", .string (credentialsOf members).issuer),
      ("lifespan_secs", .ofNat (credentialsOf members).lifespanSeconds)] = members := by
  simp only [filled_cons_iff, filled_nil_iff, Entry.Has, required, number, Kind.Has, Bool.false_eq_true,
    false_and, or_false] at filled
  obtain ⟨_, _, ⟨issuer, rfl⟩, ⟨_, _, ⟨lifespan, rfl⟩, rfl, rfl⟩, rfl⟩ := filled
  simp [credentialsOf, Members.text, Members.natural, Members.get?_first, Members.get?_behind, text?_string,
    natural?_ofNat]

theorem cors_filled (filled : Filled corsSection.entries members) :
    [("enabled", .bool (corsOf members).enabled), ("allowed_origins", .strings (corsOf members).origins),
      ("allowed_methods", .strings (corsOf members).methods),
      ("allowed_headers", .strings (corsOf members).headers),
      ("allow_credentials", .bool (corsOf members).credentials),
      ("max_age_secs", natural? (corsOf members).maxAgeSeconds)] = members := by
  simp only [corsSection, filled_cons_iff, filled_nil_iff, Entry.Has, number, Kind.Has, Bool.false_eq_true,
    false_and, or_false, true_and, optional_natural_iff] at filled
  obtain ⟨_, _, ⟨enabled, rfl⟩, ⟨_, _, ⟨origins, rfl⟩, ⟨_, _, ⟨methods, rfl⟩, ⟨_, _, ⟨headers, rfl⟩,
    ⟨_, _, ⟨credentials, rfl⟩, ⟨_, _, ⟨seconds, rfl⟩, rfl, rfl⟩, rfl⟩, rfl⟩, rfl⟩, rfl⟩, rfl⟩ := filled
  simp [corsOf, Members.flag, Members.texts, Members.items, Members.natural?, Members.get?_first,
    Members.get?_behind, Value.flag?, texts_strings, natural?_natural?]

end Sections

def FullRecord (full : Members) : Prop :=
  List.Forall₂ (fun s member => member.1 = s.name ∧ ∃ members, Filled s.entries members ∧
    member.2 = .object members) schema full

theorem toJson_ofMembers (full : Members) (record : FullRecord full) :
    (ofMembers full).toJson = .object full := by
  simp only [FullRecord, schema, List.forall₂_cons_left_iff, List.forall₂_nil_left_iff] at record
  obtain ⟨⟨_, _⟩, _, ⟨rfl, server, serverFilled, rfl⟩, ⟨⟨_, _⟩, _, ⟨rfl, backend, backendFilled, rfl⟩,
    ⟨⟨_, _⟩, _, ⟨rfl, rules, rulesFilled, rfl⟩, ⟨⟨_, _⟩, _, ⟨rfl, policy, policyFilled, rfl⟩,
    ⟨⟨_, _⟩, _, ⟨rfl, keys, keysFilled, rfl⟩, ⟨⟨_, _⟩, _, ⟨rfl, credentials, credentialsFilled, rfl⟩,
    ⟨⟨_, _⟩, _, ⟨rfl, cors, corsFilled, rfl⟩, rfl, rfl⟩, rfl⟩, rfl⟩, rfl⟩, rfl⟩, rfl⟩, rfl⟩ := record
  have keysName : keysSection.name = "keys" := rfl
  have corsName : corsSection.name = "cors" := rfl
  simp [ofMembers, toJson, Members.inner, Members.get?_first, Members.get?_behind, members?_object, keysName,
    corsName, server_filled _ serverFilled, backend_filled _ backendFilled, rules_filled _ rulesFilled,
    policy_filled _ policyFilled, keys_filled _ keysFilled, credentials_filled _ credentialsFilled,
    cors_filled _ corsFilled]

theorem get?_of_forall₂ (nameOf : α → String) (has : α → Value → Prop) (list : List α) (members : Members)
    (each : List.Forall₂ (fun item member => member.1 = nameOf item ∧ has item member.2) list members)
    (distinct : (list.map nameOf).Nodup) (item : α) (inside : item ∈ list) :
    ∃ value, members.get? (nameOf item) = some value ∧ has item value := by
  induction each with
  | nil => cases inside
  | @cons first member rest others head tail ih =>
      obtain ⟨fresh, distinct⟩ := List.nodup_cons.mp distinct
      obtain ⟨name, value⟩ := member
      obtain ⟨rfl, here⟩ := head
      rcases List.mem_cons.mp inside with rfl | later
      · exact ⟨value, if_pos rfl, here⟩
      · obtain ⟨found, told, known⟩ := ih distinct later
        refine ⟨found, ?_, known⟩
        rwa [Members.get?, if_neg]
        intro same
        exact fresh (same ▸ List.mem_map_of_mem later)

/-! ## Single values -/

/-- The value of a setting, by the names of its section and its own. -/
def value? (s : Settings) (part name : String) : Option Value := (s.toJson.get? part).bind (·.get? name)

theorem value?_ofMembers (full : Members) (record : FullRecord full) (part name : String) :
    (ofMembers full).value? part name = (full.get? part).bind (·.get? name) := by
  rw [value?, toJson_ofMembers full record]
  rfl

theorem strings_inj (items other : List String) : Value.strings items = .strings other ↔ items = other := by
  refine ⟨fun same => ?_, congrArg _⟩
  have texts := congrArg (fun value => ((value.items?).getD []).filterMap Value.text?) same
  rwa [texts_strings, texts_strings] at texts

theorem ofOption_inj (s other : Option String) : Value.ofOption s = .ofOption other ↔ s = other := by
  refine ⟨fun same => ?_, congrArg _⟩
  rw [← text?_ofOption s, same, text?_ofOption]

theorem ofNat_inj (n other : Nat) : Value.ofNat n = .ofNat other ↔ n = other := by
  refine ⟨fun same => Option.some.inj ?_, congrArg _⟩
  rw [← natural?_ofNat, same, natural?_ofNat]

theorem natural?_inj (n other : Option Nat) : natural? n = natural? other ↔ n = other := by
  refine ⟨fun same => ?_, congrArg _⟩
  rw [← natural?_natural? n, same, natural?_natural?]

theorem StoreKind.name_inj (kind other : StoreKind) : kind.name = other.name ↔ kind = other := by
  cases kind <;> cases other <;> decide

theorem KeyChoice.name_inj (choice other : KeyChoice) : choice.name = other.name ↔ choice = other := by
  cases choice <;> cases other <;> decide

/-- A value with the path of the rule file made absolute. -/
def placed (directory part name : String) (value : Value) : Value :=
  if part = "rules" ∧ name = "path" then .ofOption (value.text?.map (joined directory)) else value

theorem get?_path (s : Settings) : s.value? "rules" "path" = some (.ofOption s.rules.path) := by
  simp [value?, toJson, Value.get?, members?_object, Members.get?_first, Members.get?_behind]

theorem get?_middle (name key : String) (old new : Value) (before after : Members) (other : key ≠ name) :
    Members.get? name (before ++ (key, old) :: after) = Members.get? name (before ++ (key, new) :: after) := by
  induction before with
  | nil => simp only [List.nil_append, Members.get?, other, if_false]
  | cons first rest ih => simp only [List.cons_append, Members.get?, ih]

theorem toJson_rules (s : Settings) :
    s.toJson.get? "rules" = some (.object
      [("store", .string s.rules.store.name), ("path", .ofOption s.rules.path),
       ("url", .ofOption s.rules.url), ("refresh_interval_secs", .ofNat s.rules.refreshSeconds)]) := by
  simp [toJson, Value.get?, members?_object, Members.get?_first, Members.get?_behind]

theorem toJson_located (directory : String) (s : Settings) (part : String) (other : "rules" ≠ part) :
    (s.located directory).toJson.get? part = s.toJson.get? part := by
  simp only [Value.get?, toJson, members?_object, Option.bind_some]
  exact get?_middle part "rules" _ _ [_, _] _ other

theorem value?_located (directory : String) (s : Settings) (part name : String) :
    (s.located directory).value? part name = (s.value? part name).map (placed directory part name) := by
  by_cases path : part = "rules" ∧ name = "path"
  · obtain ⟨rfl, rfl⟩ := path
    rw [get?_path, get?_path]
    simp [located, placed, text?_ofOption]
  · have plain : placed directory part name = id := funext fun value => if_neg path
    rw [plain, Option.map_id_fun, id]
    by_cases rules : "rules" = part
    · subst rules
      have other : "path" ≠ name := fun same => path ⟨rfl, same.symm⟩
      rw [value?, value?, toJson_rules, toJson_rules]
      simp only [Option.bind_some, Value.get?, members?_object]
      exact get?_middle name "path" _ _ [_] _ other
    · rw [value?, value?, toJson_located directory s part rules]

theorem eq_of_value? (s other : Settings)
    (same : ∀ part ∈ schema, ∀ entry ∈ part.entries,
      other.value? part.name entry.name = s.value? part.name entry.name) : other = s := by
  simp only [schema, keysSection, corsSection, required, optional, List.forall_mem_cons, List.not_mem_nil,
    false_implies, implies_true, and_true] at same
  simp [value?, toJson, Value.get?, members?_object, Members.get?_first, Members.get?_behind, strings_inj,
    ofOption_inj, ofNat_inj, natural?_inj, StoreKind.name_inj, KeyChoice.name_inj] at same
  obtain ⟨⟨⟩, _, ⟨⟩, ⟨⟨⟩, _⟩, ⟨⟩, ⟨⟩, ⟨⟩⟩ := s
  obtain ⟨⟨⟩, _, ⟨⟩, ⟨⟨⟩, _⟩, ⟨⟩, ⟨⟩, ⟨⟩⟩ := other
  simp_all

end AccessGate.Settings
