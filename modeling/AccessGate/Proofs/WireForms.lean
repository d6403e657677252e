import AccessGate.Policy.Wire
import AccessGate.Proofs.Json.RecordForm
import AccessGate.Proofs.SharedSecret
import AccessGate.Rule.Spec

/-!
Rules, queries and answers as JSON. They are decoded as they were encoded, except for numbers that their texts
do not say; and nobody is active or allowed whom the policy service did not call so.
-/

namespace AccessGate

open Json Json.Reader

/-! ## Rules -/

namespace RuleSpec

/-- The match of a rule, as its methods and its URL. -/
def matchForm : RecordForm (List String × String) where
  title := "RuleMatchSpec"
  fields := matchFields
  ofMembers m := ⟨m.texts "methods", m.text "url"⟩
  toMembers x := [("methods", .strings x.1), ("url", .string x.2)]
  distinct := by decide
  usable := by
    simp only [matchFields, List.forall_mem_cons, List.not_mem_nil, false_implies, implies_true, and_true]
    exact ⟨usable_texts _, usable_required _ regular_string⟩
  full x := .cons ⟨rfl, list_strings x.1⟩ (.cons ⟨rfl, rfl⟩ .nil)
  kept x := Prod.ext (texts_strings x.1) rfl
  typed members read := by
    obtain _ | ⟨⟨_, _, rfl, methods⟩, _ | ⟨⟨_, _, rfl, url⟩, _ | _⟩⟩ := read
    obtain ⟨_, _, texts, -, rfl⟩ := strings_ok _ _ methods
    obtain ⟨s, rfl⟩ := string_ok _ _ url
    exact congrArg (fun texts => [("methods", Value.strings texts), ("url", .string s)]) (texts_strings texts)

theorem matchReader_ok (node : Node) (value : Value) (read : matchReader node = .ok value) :
    ∃ texts url, value = matchForm.encode (texts, url) := by
  obtain ⟨members, rfl, tells⟩ := record_ok _ _ matchForm.distinct node value read
  have same := matchForm.typed members (tells.read matchForm.defaultsRead)
  exact ⟨_, _, congrArg Value.object same.symm⟩

theorem match_depth (x : List String × String) : (matchForm.encode x).depth = 2 := by
  simp [matchForm, RecordForm.encode, Value.depth, membersDepth, strings_depth]

theorem regular_matchReader : Regular matchReader where
  byValue := matchForm.byValue_reader
  shallow node value _ read := by
    obtain ⟨texts, url, rfl⟩ := matchReader_ok node value read
    rw [match_depth]
    decide

def form : RecordForm RuleSpec where
  title := "RuleSpec"
  fields := fields
  ofMembers := ofMembers
  toMembers spec :=
    [("id", .string spec.id), ("description", .string spec.description),
      ("match", matchForm.encode (spec.methods, spec.url)), ("mode", .string spec.mode.name),
      ("required_action", .string spec.action), ("required_resource", .string spec.resource),
      ("required_scopes", .strings spec.scopes)]
  distinct := by decide
  usable := by
    simp only [fields, List.forall_mem_cons, List.not_mem_nil, false_implies, implies_true, and_true]
    exact ⟨usable_required _ regular_string, usable_text _, usable_required _ regular_matchReader,
      usable_required _ (regular_choice _), usable_text _, usable_text _, usable_texts _⟩
  full spec := by
    have inner := record_full matchForm.title _ _ matchForm.distinct (matchForm.full (spec.methods, spec.url))
    have mode : choice (RuleMode.all.map RuleMode.name) (.given (.string spec.mode.name)) =
        .ok (.string spec.mode.name) := by
      cases spec.mode <;> rfl
    exact .cons ⟨rfl, rfl⟩ (.cons ⟨rfl, rfl⟩ (.cons ⟨rfl, inner⟩ (.cons ⟨rfl, mode⟩ (.cons ⟨rfl, rfl⟩
      (.cons ⟨rfl, rfl⟩ (.cons ⟨rfl, list_strings spec.scopes⟩ .nil))))))
  kept spec := by
    change RuleSpec.mk spec.id spec.description (((Value.strings spec.methods).items?.getD []).filterMap _)
      spec.url (.ofName spec.mode.name) spec.action spec.resource
      (((Value.strings spec.scopes).items?.getD []).filterMap _) = spec
    rw [texts_strings, RuleMode.ofName_name, texts_strings]
  typed members read := by
    obtain _ | ⟨⟨_, _, rfl, id_read⟩, _ | ⟨⟨_, _, rfl, about_read⟩, _ | ⟨⟨_, _, rfl, match_read⟩,
      _ | ⟨⟨_, _, rfl, mode_read⟩, _ | ⟨⟨_, _, rfl, action_read⟩, _ | ⟨⟨_, _, rfl, resource_read⟩,
      _ | ⟨⟨_, _, rfl, scopes_read⟩, _ | _⟩⟩⟩⟩⟩⟩⟩ := read
    obtain ⟨id, rfl⟩ := string_ok _ _ id_read
    obtain ⟨description, rfl⟩ := string_ok _ _ about_read
    obtain ⟨methods, url, rfl⟩ := matchReader_ok _ _ match_read
    obtain ⟨name, known, rfl⟩ := choice_ok _ _ _ mode_read
    obtain ⟨action, rfl⟩ := string_ok _ _ action_read
    obtain ⟨resource, rfl⟩ := string_ok _ _ resource_read
    obtain ⟨_, _, scopes, -, rfl⟩ := strings_ok _ _ scopes_read
    obtain ⟨mode, -, rfl⟩ := List.mem_map.mp known
    change [("id", _), ("description", _),
      ("match", matchForm.encode (((Value.strings methods).items?.getD []).filterMap _, url)),
      ("mode", .string (RuleMode.ofName mode.name).name), ("required_action", _), ("required_resource", _),
      ("required_scopes", .strings (((Value.strings scopes).items?.getD []).filterMap _))] = _
    rw [texts_strings, RuleMode.ofName_name, texts_strings]
    rfl

end RuleSpec

/-! ## Queries and answers -/

def AccessQuery.form : RecordForm AccessQuery where
  title := "AccessRequest"
  fields := fields
  ofMembers := ofMembers
  toMembers query :=
    [("action", .string query.action), ("resource", .string query.resource),
      ("scopes", .strings query.scopes), ("token", .string query.token), ("context", .object query.context)]
  distinct := by decide
  usable := by
    simp only [fields, List.forall_mem_cons, List.not_mem_nil, false_implies, implies_true, and_true]
    exact ⟨usable_required _ regular_string, usable_required _ regular_string, usable_texts _,
      usable_required _ regular_string, usable_members _⟩
  full query := .cons ⟨rfl, rfl⟩ (.cons ⟨rfl, rfl⟩ (.cons ⟨rfl, list_strings query.scopes⟩
    (.cons ⟨rfl, rfl⟩ (.cons ⟨rfl, rfl⟩ .nil))))
  kept query := by
    change AccessQuery.mk query.action query.resource
      (((Value.strings query.scopes).items?.getD []).filterMap _) query.token query.context = query
    rw [texts_strings]
  typed members read := by
    obtain _ | ⟨⟨_, _, rfl, action_read⟩, _ | ⟨⟨_, _, rfl, resource_read⟩, _ | ⟨⟨_, _, rfl, scopes_read⟩,
      _ | ⟨⟨_, _, rfl, token_read⟩, _ | ⟨⟨_, _, rfl, context_read⟩, _ | _⟩⟩⟩⟩⟩ := read
    obtain ⟨action, rfl⟩ := string_ok _ _ action_read
    obtain ⟨resource, rfl⟩ := string_ok _ _ resource_read
    obtain ⟨_, _, scopes, -, rfl⟩ := strings_ok _ _ scopes_read
    obtain ⟨token, rfl⟩ := string_ok _ _ token_read
    obtain ⟨_, _, context, -, rfl⟩ := members_ok _ _ context_read
    change [("action", _), ("resource", _),
      ("scopes", Value.strings (((Value.strings scopes).items?.getD []).filterMap _)), ("token", _),
      ("context", _)] = _
    rw [texts_strings]
    rfl

def Introspection.form : RecordForm Introspection where
  title := "Introspection"
  fields := fields
  ofMembers := ofMembers
  toMembers i :=
    [("active", .bool i.active), ("sub", .string i.subject), ("client_id", .string i.clientId),
      ("scope", .string i.scope), ("ext", .object i.extra)]
  distinct := by decide
  usable := by
    simp only [fields, List.forall_mem_cons, List.not_mem_nil, false_implies, implies_true, and_true]
    exact ⟨usable_required _ regular_flag, usable_text _, usable_text _, usable_text _, usable_members _⟩
  full i := .cons ⟨rfl, rfl⟩ (.cons ⟨rfl, rfl⟩ (.cons ⟨rfl, rfl⟩ (.cons ⟨rfl, rfl⟩ (.cons ⟨rfl, rfl⟩ .nil))))
  kept i := rfl
  typed members read := by
    obtain _ | ⟨⟨_, _, rfl, active_read⟩, _ | ⟨⟨_, _, rfl, subject_read⟩, _ | ⟨⟨_, _, rfl, client_read⟩,
      _ | ⟨⟨_, _, rfl, scope_read⟩, _ | ⟨⟨_, _, rfl, extra_read⟩, _ | _⟩⟩⟩⟩⟩ := read
    obtain ⟨_, _, active, -, rfl⟩ := flag_ok _ _ active_read
    obtain ⟨subject, rfl⟩ := string_ok _ _ subject_read
    obtain ⟨client, rfl⟩ := string_ok _ _ client_read
    obtain ⟨scope, rfl⟩ := string_ok _ _ scope_read
    obtain ⟨_, _, extra, -, rfl⟩ := members_ok _ _ extra_read
    rfl

def Authorization.form : RecordForm Authorization where
  title := "Authorization"
  fields := fields
  ofMembers := ofMembers
  toMembers a :=
    [("allowed", .bool a.allowed), ("subject", .string a.subject), ("client_id", .string a.clientId),
      ("ext", .object a.extra)]
  distinct := by decide
  usable := by
    simp only [fields, List.forall_mem_cons, List.not_mem_nil, false_implies, implies_true, and_true]
    exact ⟨usable_required _ regular_flag, usable_text _, usable_text _, usable_members _⟩
  full a := .cons ⟨rfl, rfl⟩ (.cons ⟨rfl, rfl⟩ (.cons ⟨rfl, rfl⟩ (.cons ⟨rfl, rfl⟩ .nil)))
  kept a := rfl
  typed members read := by
    obtain _ | ⟨⟨_, _, rfl, allowed_read⟩, _ | ⟨⟨_, _, rfl, subject_read⟩, _ | ⟨⟨_, _, rfl, client_read⟩,
      _ | ⟨⟨_, _, rfl, extra_read⟩, _ | _⟩⟩⟩⟩ := read
    obtain ⟨_, _, allowed, -, rfl⟩ := flag_ok _ _ allowed_read
    obtain ⟨subject, rfl⟩ := string_ok _ _ subject_read
    obtain ⟨client, rfl⟩ := string_ok _ _ client_read
    obtain ⟨_, _, extra, -, rfl⟩ := members_ok _ _ extra_read
    rfl

/-- The node says yes under a name, or in the first place of a list. -/
inductive Json.Node.Affirms (name : String) (node : Node) : Prop
  | named (first place after : Option Place) (entries : Entries) (said : Node)
      (opened : node.opened = .object first none entries) (known : entries.find? name = some said)
      (yes : said.opened = .bool place after true)
  | listed (first place after : Option Place) (surplus : Option SyntaxError) (said : Node) (rest : Items)
      (opened : node.opened = .array first none (.more surplus said rest))
      (yes : said.opened = .bool place after true)

theorem Json.Node.Tells.affirms {node : Node} {name : String} {fields : List Field} {members : Members}
    (tells : node.Tells (.required name flag :: fields) ((name, .bool true) :: members)) :
    node.Affirms name := by
  cases tells with
  | named first entries opened each =>
      cases each with
      | cons said _ =>
          obtain ⟨-, ⟨node, known, read⟩ | ⟨-, default⟩⟩ := said
          · obtain ⟨place, after, b, opens, same⟩ := flag_ok node _ read
            cases same
            exact .named first place after entries node opened known opens
          · cases default
  | listed first items opened each =>
      cases each with
      | left after _ _ _ _ positional default _ => cases default
      | said surplus node rest _ _ _ _ read _ =>
          obtain ⟨place, after, b, opens, same⟩ := flag_ok node _ read
          cases same
          exact .listed first place after surplus node rest opened opens

theorem Introspection.affirmed (node : Node) (found : Introspection) (read : decode node = .ok found)
    (yes : found.active = true) : node.Affirms "active" := by
  obtain ⟨active, subject, client, scope, extra⟩ := found
  cases yes
  exact (form.decode_fills node _ read).affirms

theorem Authorization.affirmed (node : Node) (found : Authorization) (read : decode node = .ok found)
    (yes : found.allowed = true) : node.Affirms "allowed" := by
  obtain ⟨allowed, subject, client, extra⟩ := found
  cases yes
  exact (form.decode_fills node _ read).affirms

/-! ## Round trips -/

theorem RuleSpec.legible_toJson (spec : RuleSpec) : spec.toJson.Legible := by
  have texts : ∀ texts : List String, (Value.strings texts).Legible := fun texts =>
    .array _ fun item inside => by
      obtain ⟨s, -, rfl⟩ := List.mem_map.mp inside
      exact .string s
  refine .object _ (by change (fieldNames RuleSpec.fields).Nodup; decide) ?_
  simp only [List.forall_mem_cons, List.not_mem_nil, false_implies, implies_true, and_true]
  refine ⟨.string _, .string _, .object _ ?_ ?_, .string _, .string _, .string _, texts _⟩
  · change (fieldNames RuleSpec.matchFields).Nodup
    decide
  · simp only [List.forall_mem_cons, List.not_mem_nil, false_implies, implies_true, and_true]
    exact ⟨texts _, .string _⟩

theorem RuleSpec.toJson_depth (spec : RuleSpec) : spec.toJson.depth = 3 := by
  simp [RuleSpec.toJson, Value.depth, membersDepth, strings_depth]

theorem RuleSpec.url_needed (node said : Node) (first place : Option Place) (deep closed : Option SyntaxError)
    (entries inner : Entries) (opened : node.opened = .object first deep entries)
    (found : entries.find? "match" = some said) (matched : said.opened = .object place closed inner)
    (unsaid : inner.find? "url" = none) : ∃ e, RuleSpec.decode node = .error e := by
  have lenient := lenient_record "RuleMatchSpec" matchFields (by decide) matchForm.defaultsRead
  obtain ⟨e, refused⟩ := lenient.missing said place closed inner matched "url" List.mem_cons_self unsaid
  cases read : RuleSpec.decode node with
  | error e => exact ⟨e, rfl⟩
  | ok spec =>
      cases form.decode_fills node spec read with
      | named first entries known each =>
          cases opened.symm.trans known
          obtain ⟨value, ⟨other, told, taken⟩ | ⟨missing, -⟩⟩ :=
            each.told (.required "match" matchReader) (by simp [form, fields])
          · cases found.symm.trans told
            cases refused.symm.trans taken
          · cases found.symm.trans missing
      | listed first items known each => cases opened.symm.trans known

/-- The forms in which rules, queries and answers are exchanged: what is encoded is decoded again, from a text
if that says its numbers, as it does those that are whole and of 64 bits; and nobody is active or allowed whom
the answer does not call so. -/
theorem wire_forms_lawful :
    Lawful RuleSpec.fields RuleSpec.decode RuleSpec.toJson ∧
    Lenient RuleSpec.matchFields RuleSpec.matchReader ∧
    Lawful AccessQuery.fields AccessQuery.decode AccessQuery.toJson ∧
    Lawful Introspection.fields Introspection.decode Introspection.toJson ∧
    Lawful Authorization.fields Authorization.decode Authorization.toJson ∧
    requiredNames RuleSpec.fields = ["id", "match", "mode"] ∧
    requiredNames RuleSpec.matchFields = ["url"] ∧
    requiredNames AccessQuery.fields = ["action", "resource", "token"] ∧
    requiredNames Introspection.fields = ["active"] ∧
    requiredNames Authorization.fields = ["allowed"] ∧
    (∀ value : Value, value.Exact → value.Legible) ∧
    (∀ spec : RuleSpec, (Document.ofChars spec.toJson.chars).read RuleSpec.decode = .ok spec) ∧
    (∀ (node said : Node) (first place : Option Place) (deep closed : Option SyntaxError)
      (entries inner : Entries), node.opened = .object first deep entries →
      entries.find? "match" = some said → said.opened = .object place closed inner →
      inner.find? "url" = none → ∃ e, RuleSpec.decode node = .error e) ∧
    (∀ node found, Introspection.decode node = .ok found → found.active = true → node.Affirms "active") ∧
    ∀ node found, Authorization.decode node = .ok found → found.allowed = true → node.Affirms "allowed" := by
  refine ⟨RuleSpec.form.lawful, lenient_record _ _ (by decide) RuleSpec.matchForm.defaultsRead,
    AccessQuery.form.lawful, Introspection.form.lawful, Authorization.form.lawful, rfl, rfl, rfl, rfl, rfl,
    fun _ => Value.Exact.legible, fun spec => ?_, RuleSpec.url_needed, Introspection.affirmed,
    Authorization.affirmed⟩
  refine RuleSpec.form.decode_chars spec spec.legible_toJson ?_
  exact Nat.le_trans (Nat.le_of_eq spec.toJson_depth) (by decide)

/-- An answer that says yes, with a whole number. -/
def plainAnswer : Authorization := ⟨true, "a", "", [("n", .number (.whole 1))]⟩

theorem plain_answer_lawful :
    (Document.ofChars plainAnswer.toJson.chars).read Authorization.decode = .ok plainAnswer ∧
    (Node.given plainAnswer.toJson).Affirms "allowed" ∧
    (Node.given (Introspection.toJson ⟨true, "a", "", "", []⟩)).Affirms "active" ∧
    ∃ e, RuleSpec.decode (.given (.object [("id", .string "a"), ("match", .object []),
      ("mode", .string "bypass")])) = .error e := by
  obtain ⟨-, -, -, introspections, answers, -, -, -, -, -, legible, -, unmatched, active, allowed⟩ :=
    wire_forms_lawful
  have exact_ : plainAnswer.toJson.Exact := by
    refine .object _ (by decide) ?_
    simp only [List.forall_mem_cons, List.not_mem_nil, false_implies, implies_true, and_true]
    refine ⟨.bool true, .string _, .string _, .object _ (by decide) ?_⟩
    simp only [plainAnswer, List.forall_mem_cons, List.not_mem_nil, false_implies, implies_true, and_true]
    exact .whole 1 (by decide) (by decide)
  refine ⟨(answers.text plainAnswer (legible _ exact_)).mpr ?_, ?_, ?_, ?_⟩
  · simp [plainAnswer, Authorization.toJson, Value.depth, membersDepth, depthLimit]
  · exact allowed _ plainAnswer (answers.back plainAnswer _ (.inl rfl)) rfl
  · exact active _ _ (introspections.back _ _ (.inl rfl)) rfl
  · exact unmatched _ _ _ _ _ _ _ _ rfl rfl rfl rfl

/-- An answer with a number that its own text does not say. -/
def largeAnswer : Authorization := ⟨true, "", "", largeClaims⟩

def plainDouble? (answer : Authorization) : Option (String × Double) :=
  if answer.allowed && answer.subject.isEmpty && answer.clientId.isEmpty then onlyDouble? (.object answer.extra)
  else none

def largeText : List Char :=
  "\x7b\"allowed\":true,\"ext\":\x7b\"n\":300000000000000000000000\x7d\x7d".toList

theorem plainDouble_some (answer : Authorization) (name : String) (x : Double)
    (known : plainDouble? answer = some (name, x)) :
    answer = ⟨true, "", "", [(name, .number (.real x))]⟩ := by
  obtain ⟨allowed, subject, client, extra⟩ := answer
  unfold plainDouble? at known
  split at known
  · rename_i plain
    simp only [Bool.and_eq_true, String.isEmpty_iff] at plain
    obtain ⟨⟨rfl, rfl⟩, rfl⟩ := plain
    cases onlyDouble_some _ name x known
    rfl
  · cases known

/-- An answer that holds one array too many inside each other. -/
def deepAnswer : Authorization := ⟨true, "", "", [("n", nested 126)]⟩

theorem deepAnswer_depth : deepAnswer.toJson.depth = 128 := by
  simp [deepAnswer, Authorization.toJson, Value.depth, membersDepth, nested_depth]

-- The text of the number is `3e+23`, which a reader rounds twice.
theorem answers_misread :
    (Document.ofChars largeText).read Authorization.decode = .ok largeAnswer ∧
    (Document.ofChars largeAnswer.toJson.chars).read Authorization.decode ≠ .ok largeAnswer ∧
    (Document.ofChars deepAnswer.toJson.chars).read Authorization.decode ≠ .ok deepAnswer := by
  have written : ((Document.ofChars largeText).read Authorization.decode).toOption.bind plainDouble? =
      some ("n", large) := by decide +kernel
  have again : ((Document.ofChars largeAnswer.toJson.chars).read Authorization.decode).toOption.bind
      plainDouble? ≠ some ("n", large) := by decide +kernel
  refine ⟨?_, fun same => ?_, fun same => ?_⟩
  · obtain ⟨answer, read, plain⟩ := Option.bind_eq_some_iff.mp written
    rw [plainDouble_some answer "n" large plain] at read
    exact (toOption_eq_some_iff _ _).mp read
  · rw [same] at again
    exact again rfl
  · have room := Authorization.form.decode_shallow _ deepAnswer same
    exact absurd (deepAnswer_depth ▸ room : 128 ≤ depthLimit) (by decide)

end AccessGate
