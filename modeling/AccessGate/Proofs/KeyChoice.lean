import AccessGate.Proofs.UsableKey

/-!
Which key of a set is chosen. The first one that is marked private decides alone: when it is of no use, a
later one that would be is not found, so that the order of a set matters.
-/

namespace AccessGate

variable {σ : Type}

open Json

namespace KeySource

/-! ## Marks -/

/-- An identifier that says that the key is private. -/
def Marked (members : Members) : Prop :=
  ∃ id, members.get? "kid" = some (.string id) ∧ "private:".toList <:+: id.toList

theorem occurs_iff (part cs : List Char) : occurs part cs = true ↔ part <:+: cs := by
  induction cs with
  | nil => simp [occurs]
  | cons c cs ih => simp [occurs, ih, List.infix_cons_iff]

theorem isMarkedPrivate_iff (members : Members) : isMarkedPrivate members = true ↔ Marked members := by
  unfold isMarkedPrivate Marked Members.text?
  cases members.get? "kid" with
  | none => simp
  | some value =>
      cases value with
      | string id =>
          change occurs privateMark id.toList = true ↔ _
          rw [occurs_iff]
          simp only [Option.some.injEq, Value.string.injEq, exists_eq_left']
          rfl
      | _ => simp [Value.text?]

/-- An element of a set that is marked private, is a pair of the right kind, and meets what is asked of it
besides. -/
structure Serves (fit : Jwk → Prop) (members : Members) (pair : Jwk) : Prop where
  marked : Marked members
  read : Jwk.ofMembers members = .ok pair
  kind : pair.kind = "RSA"
  whole : pair.hasMember "d" = true
  fit : fit pair

/-! ## The first marked key -/

/-- The first object with a mark, whatever stands around it. -/
def FirstMarked (items : List Value) (members : Members) : Prop :=
  ∃ before after, items = before ++ .object members :: after ∧ Marked members ∧
    ∀ other, .object other ∈ before → ¬ Marked other

theorem FirstMarked.member {items : List Value} {members : Members} (chosen : FirstMarked items members) :
    .object members ∈ items ∧ Marked members := by
  obtain ⟨before, after, rfl, marked, -⟩ := chosen
  exact ⟨by simp, marked⟩

theorem find_marked_iff (items : List Value) (members : Members) :
    (items.filterMap Value.members?).find? isMarkedPrivate = some members ↔ FirstMarked items members := by
  let counts (item : Value) : Bool := item.members?.any isMarkedPrivate
  have counts_iff : ∀ item, counts item = true ↔ ∃ members, item = .object members ∧ Marked members := by
    intro item
    cases item with
    | object members => simp [counts, Value.members?, isMarkedPrivate_iff]
    | _ => simp [counts, Value.members?]
  have kept : (items.filterMap Value.members?).find? isMarkedPrivate = some members ↔
      items.find? counts = some (.object members) := by
    rw [List.find?_filterMap, Option.bind_eq_some_iff]
    constructor
    · rintro ⟨item, found, object⟩
      cases item with
      | object other =>
          cases object
          exact found
      | _ => cases object
    · exact fun found => ⟨_, found, rfl⟩
  have others_iff : ∀ before : List Value, (∀ item ∈ before, (!counts item) = true) ↔
      ∀ other, .object other ∈ before → ¬ Marked other := by
    intro before
    constructor
    · intro none_ other member marked
      have counted := (counts_iff (.object other)).mpr ⟨other, rfl, marked⟩
      simpa [counted] using none_ _ member
    · intro unmarked item member
      rw [Bool.not_eq_true', Bool.eq_false_iff]
      intro counted
      obtain ⟨other, rfl, marked⟩ := (counts_iff item).mp counted
      exact unmarked other member marked
  rw [kept, List.find?_eq_some_iff_append]
  constructor
  · rintro ⟨counted, before, after, shape, others⟩
    obtain ⟨other, ⟨⟩, marked⟩ := (counts_iff _).mp counted
    exact ⟨before, after, shape, marked, (others_iff before).mp others⟩
  · rintro ⟨before, after, shape, marked, others⟩
    exact ⟨(counts_iff _).mpr ⟨members, rfl, marked⟩, before, after, shape, (others_iff before).mpr others⟩

theorem chosen_iff (body : Value) (set : String) (fit : Jwk → Prop) :
    (∃ pair, privateKeyOf body set = .ok pair ∧ fit pair) ↔
      ∃ items members pair, body.get? "keys" = some (.array items) ∧ FirstMarked items members ∧
        Serves fit members pair := by
  have first : ∀ members, (entries body).find? isMarkedPrivate = some members ↔
      ∃ items, body.get? "keys" = some (.array items) ∧ FirstMarked items members := by
    intro members
    unfold entries
    cases body.get? "keys" with
    | none => simp
    | some value =>
        cases value with
        | array items =>
            change (items.filterMap Value.members?).find? isMarkedPrivate = some members ↔ _
            rw [find_marked_iff]
            simp
        | _ => simp [Value.items?]
  simp only [privateKeyOf_ok, first]
  constructor
  · rintro ⟨pair, ⟨members, ⟨items, listed, chosen⟩, read, kind, whole⟩, meets⟩
    obtain ⟨before, after, shape, marked, others⟩ := chosen
    exact ⟨items, members, pair, listed, ⟨before, after, shape, marked, others⟩,
      marked, read, kind, whole, meets⟩
  · rintro ⟨items, members, pair, listed, chosen, serves⟩
    exact ⟨pair, ⟨members, ⟨items, listed, chosen⟩, serves.read, serves.kind, serves.whole⟩, serves.fit⟩

theorem exists_first (items : List Value) (members : Members) (member : .object members ∈ items)
    (marked : Marked members) : ∃ first, FirstMarked items first := by
  have inside : members ∈ items.filterMap Value.members? := List.mem_filterMap.mpr ⟨_, member, rfl⟩
  have found : ((items.filterMap Value.members?).find? isMarkedPrivate).isSome = true :=
    List.find?_isSome.mpr ⟨members, inside, (isMarkedPrivate_iff members).mpr marked⟩
  obtain ⟨first, found⟩ := Option.isSome_iff_exists.mp found
  exact ⟨first, (find_marked_iff items first).mp found⟩

/-- A set is of use in every order just when all keys that are marked are. -/
theorem found_in_all_orders_iff (items : List Value) (set : String) (fit : Jwk → Prop) :
    (∀ order body, order.Perm items → body.get? "keys" = some (.array order) →
        ∃ pair, privateKeyOf body set = .ok pair ∧ fit pair) ↔
      (∃ members, .object members ∈ items ∧ Marked members) ∧
        ∀ members, .object members ∈ items → Marked members → ∃ pair, Serves fit members pair := by
  constructor
  · intro found
    have first : ∀ order, order.Perm items →
        ∃ members pair, FirstMarked order members ∧ Serves fit members pair := by
      intro order same
      obtain ⟨listed, members, pair, shape, chosen, serves⟩ :=
        (chosen_iff (.object [("keys", .array order)]) set fit).mp (found order _ same rfl)
      cases shape
      exact ⟨members, pair, chosen, serves⟩
    constructor
    · obtain ⟨members, pair, chosen, -⟩ := first items (.refl items)
      exact ⟨members, chosen.member⟩
    -- The order that begins with a marked key is decided by this key.
    · intro members member marked
      obtain ⟨front, back, rfl⟩ := List.append_of_mem member
      obtain ⟨chosen, pair, ⟨before, after, shape, -, others⟩, serves⟩ :=
        first (.object members :: (front ++ back)) List.perm_middle.symm
      cases before with
      | nil =>
          cases shape
          exact ⟨pair, serves⟩
      | cons other before =>
          obtain ⟨rfl, -⟩ := List.cons.inj shape
          exact absurd marked (others members List.mem_cons_self)
  · rintro ⟨⟨members, member, marked⟩, all⟩ order body same listed
    obtain ⟨first, chosen⟩ := exists_first order members (same.mem_iff.mpr member) marked
    obtain ⟨inside, own⟩ := chosen.member
    obtain ⟨pair, serves⟩ := all first (same.mem_iff.mp inside) own
    exact (chosen_iff body set fit).mpr ⟨order, first, pair, listed, chosen, serves⟩

/-! ## Sets that are fetched or created -/

/-- The answer that brings a set: that to the request for it, or, when there is none yet, that to the
request for a new one. -/
inductive SetAnswer (env : Environment σ) (baseUrl set : String) (s : σ) :
    Http.Response → σ → Prop
  | fetched (response : Http.Response) (after : σ)
      (got : (Http.fetch env (Http.Outgoing.ofText .get (setUrl baseUrl set))).run s =
        .ok (.ok response, after)) (fine : response.status = 200) :
      SetAnswer env baseUrl set s response after
  | created (missing : Http.Response) (between : σ)
      (got : (Http.fetch env (Http.Outgoing.ofText .get (setUrl baseUrl set))).run s =
        .ok (.ok missing, between)) (none : missing.status = 404) (response : Http.Response) (after : σ)
      (posted : (Http.fetch env ((Http.Outgoing.ofText .post (setUrl baseUrl set)).map
        (·.withJson creation))).run between = .ok (.ok response, after)) (made : response.status = 201) :
      SetAnswer env baseUrl set s response after

theorem request_of_setAnswer (env : Environment σ) (baseUrl set : String) (s after : σ)
    (response : Http.Response) (answered : SetAnswer env baseUrl set s response after) :
    (request env baseUrl set).run s = .ok (.ok response, after) := by
  unfold request
  cases answered with
  | fetched _ _ got fine =>
      refine (Action.run_bind_ok _ _ s _).mpr ⟨_, _, got, ?_⟩
      simp only [fine, if_true]
      rfl
  | created missing between got none _ _ posted made =>
      refine (Action.run_bind_ok _ _ s _).mpr ⟨_, _, got, ?_⟩
      simp only [none, if_true]
      rw [if_neg (by decide)]
      refine (Action.run_bind_ok _ _ between _).mpr ⟨_, _, posted, ?_⟩
      simp only [made, if_true]
      rfl

theorem load_of_setAnswer (env : Environment σ) (baseUrl set : String) (s after : σ)
    (response : Http.Response) (answered : SetAnswer env baseUrl set s response after) (body : Value)
    (read : response.decode? Node.value = some body) :
    ((service baseUrl set).load env).run s =
      .ok ((privateKeyOf body set).map fun pair => .ofPrivate pair (set ++ ":public"), after) := by
  rw [load_service env baseUrl set s after _ (request_of_setAnswer env baseUrl set s after response answered)]
  change Except.ok (decode set response, after) = _
  rw [decode, read]
  rfl

/-! ## A set of two pairs -/

def elliptic : Members :=
  [("kty", .string "EC"), ("kid", .string "private:ec"), ("crv", .string "P-256"), ("x", .string "AQ"),
    ("y", .string "AQ"), ("d", .string "AQ")]

def partless : Members :=
  [("kty", .string "RSA"), ("kid", .string "private:b"), ("n", .string "AQ"), ("e", .string "AQAB")]

theorem mixed_decoded (status : Nat) (keys : List Jwk)
    (known : ∀ key ∈ keys, key = ⟨elliptic⟩ ∨ key = ⟨Jwk.sample "RS256"⟩) :
    (Http.Response.json status (KeyAction.keySet keys)).decode? Node.value =
      some (KeyAction.keySet keys) := by
  refine Http.Response.decode_json status _ (readsBack_keySet keys ?_ ?_)
  · intro key member
    rcases known key member with rfl | rfl
    · decide
    · exact Jwk.sample_distinct "RS256"
  · intro key member
    rcases known key member with rfl | rfl
    · simp [elliptic]
    · exact Jwk.sample_texts "RS256"

theorem ofText_set (method : Http.Method) (known : method ∈ [Http.Method.get, .post]) : ∃ request_,
    Http.Outgoing.ofText method (setUrl "http://[::1]" "set") = .ok request_ ∧
      Http.Outgoing.isAskable request_.url = true := by
  have checked : ∀ method ∈ [Http.Method.get, .post],
      (Http.Outgoing.ofText method (setUrl "http://[::1]" "set")).toOption.any
        (Http.Outgoing.isAskable ·.url) = true := by decide +kernel
  have built := checked method known
  cases found : Http.Outgoing.ofText method (setUrl "http://[::1]" "set") with
  | error e =>
      rw [found] at built
      cases built
  | ok request_ =>
      rw [found] at built
      exact ⟨request_, rfl, built⟩

theorem setAnswer_fetched (response : Http.Response) (fine : response.status = 200) :
    SetAnswer replaying "http://[::1]" "set" [response] response [] := by
  obtain ⟨request_, built, askable⟩ := ofText_set .get (by decide)
  refine .fetched response [] ?_ fine
  rw [built]
  exact fetch_replayed request_ response [] askable (by simp [Http.redirected, fine])

theorem setAnswer_created (response : Http.Response) (made : response.status = 201) :
    SetAnswer replaying "http://[::1]" "set" [.empty 404, response] response [] := by
  obtain ⟨request_, built, askable⟩ := ofText_set .get (by decide)
  obtain ⟨posted, built', askable'⟩ := ofText_set .post (by decide)
  refine .created (.empty 404) [response] ?_ rfl response [] ?_ made
  · rw [built]
    exact fetch_replayed request_ (.empty 404) [response] askable rfl
  · rw [built']
    exact fetch_replayed (posted.withJson creation) response [] askable'
      (by simp [Http.redirected, made])

/-! ## The key that is found -/

/-- The key of a set is its first one that is marked private, if that is of use, and no other. The same set
is of use in every order just when all of its marked keys are. Sets that are fetched and sets that are new
are alike in this. -/
theorem key_found_iff (set : String) (fit : Jwk → Prop) :
    (∀ body, (∃ pair, privateKeyOf body set = .ok pair ∧ fit pair) ↔
      ∃ items members pair, body.get? "keys" = some (.array items) ∧ FirstMarked items members ∧
        Serves fit members pair) ∧
    (∀ items, (∀ order body, order.Perm items → body.get? "keys" = some (.array order) →
        ∃ pair, privateKeyOf body set = .ok pair ∧ fit pair) ↔
      (∃ members, .object members ∈ items ∧ Marked members) ∧
        ∀ members, .object members ∈ items → Marked members → ∃ pair, Serves fit members pair) ∧
    ∀ (env : Environment σ) baseUrl s response after, SetAnswer env baseUrl set s response after →
      ∀ body, response.decode? Node.value = some body →
        ((service baseUrl set).load env).run s =
          .ok ((privateKeyOf body set).map fun pair => .ofPrivate pair (set ++ ":public"), after) :=
  ⟨fun body => chosen_iff body set fit, fun items => found_in_all_orders_iff items set fit,
    fun env baseUrl s response after answered body read =>
      load_of_setAnswer env baseUrl set s after response answered body read⟩

theorem key_found_created :
    let sample : Jwk := ⟨Jwk.sample "RS256"⟩
    let found := KeyAction.keySet [sample, ⟨elliptic⟩]
    SetAnswer replaying "http://[::1]" "set" [.empty 404, .json 201 found] (.json 201 found) [] ∧
      (Http.Response.json 201 found).decode? Node.value = some found ∧
      ∃ pair, privateKeyOf found "set" = .ok pair ∧ pair.FitToSign ∧
        ((service "http://[::1]" "set").load replaying).run [.empty 404, .json 201 found] =
          .ok (.ok (.ofPrivate pair "set:public"), []) := by
  obtain ⟨chosen, -, loads⟩ := key_found_iff (σ := List Http.Response) "set" Jwk.FitToSign
  have answered := setAnswer_created (.json 201 (KeyAction.keySet [⟨Jwk.sample "RS256"⟩, ⟨elliptic⟩])) rfl
  have decoded := mixed_decoded 201 [⟨Jwk.sample "RS256"⟩, ⟨elliptic⟩] (by simp)
  obtain ⟨pair, found, fit⟩ := (chosen (KeyAction.keySet [⟨Jwk.sample "RS256"⟩, ⟨elliptic⟩])).mpr
    ⟨_, _, _, rfl, ⟨[], _, rfl, (isMarkedPrivate_iff _).mp rfl, nofun⟩,
      (isMarkedPrivate_iff _).mp rfl, Jwk.sample_read "RS256", rfl, rfl, Jwk.sample_fit⟩
  have loaded := loads replaying _ _ _ _ answered _ decoded
  rw [found] at loaded
  exact ⟨answered, decoded, pair, found, fit, loaded⟩

/-- The sample key is of use, and is found alone. Behind a key of another kind or one without its private
part it is not found, neither in a set that is fetched nor in one that is new. -/
theorem usable_key_missed :
    let sample : Jwk := ⟨Jwk.sample "RS256"⟩
    let found := KeyAction.keySet [sample, ⟨elliptic⟩]
    let missed := KeyAction.keySet [⟨elliptic⟩, sample]
    let source := service "http://[::1]" "set"
    Serves Jwk.FitToSign sample.members sample ∧
      privateKeyOf found "set" = .ok sample ∧
      privateKeyOf missed "set" = .error (.wrongKind "private:ec" "EC") ∧
      privateKeyOf (KeyAction.keySet [⟨partless⟩, sample]) "set" = .error (.noPrivateKey "set") ∧
      (source.load replaying).run [.json 200 missed] = .ok (.error (.wrongKind "private:ec" "EC"), []) ∧
      (source.load replaying).run [.empty 404, .json 201 missed] =
        .ok (.error (.wrongKind "private:ec" "EC"), []) := by
  have missing : privateKeyOf (KeyAction.keySet [⟨elliptic⟩, ⟨Jwk.sample "RS256"⟩]) "set" =
      .error (.wrongKind "private:ec" "EC") := rfl
  have chosen := (privateKeyOf_ok (KeyAction.keySet [⟨Jwk.sample "RS256"⟩, ⟨elliptic⟩]) "set" _).mpr
    ⟨_, rfl, Jwk.sample_read "RS256", rfl, rfl⟩
  refine ⟨⟨(isMarkedPrivate_iff _).mp rfl, Jwk.sample_read "RS256", rfl, rfl, Jwk.sample_fit⟩, chosen,
    missing, rfl, ?_, ?_⟩
  · have loaded := load_of_setAnswer replaying _ _ _ _ _ (setAnswer_fetched (.json 200 _) rfl) _
      (mixed_decoded 200 [⟨elliptic⟩, ⟨Jwk.sample "RS256"⟩] (by simp))
    rwa [missing] at loaded
  · have loaded := load_of_setAnswer replaying _ _ _ _ _ (setAnswer_created (.json 201 _) rfl) _
      (mixed_decoded 201 [⟨elliptic⟩, ⟨Jwk.sample "RS256"⟩] (by simp))
    rwa [missing] at loaded

end KeySource

end AccessGate
