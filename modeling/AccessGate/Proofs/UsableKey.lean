import AccessGate.Proofs.Actions
import AccessGate.Proofs.FitKey
import AccessGate.Proofs.Utf8

/-!
Which keys of the key service are put into place. That is done with a key that is marked private, of the right
kind and with its private part, whatever else is wrong with it. Whether it signs is decided later.
-/

namespace AccessGate

variable {σ : Type}

open Json

/-! ## Refreshing from the key service -/

namespace KeySource

/-- The pair that an answer of the key service brings: the first key that is marked private, if it is of
the right kind and has its private part. -/
def Brings (answer : Except KeyError Http.Response) (pair : Jwk) : Prop :=
  ∃ response body members, answer = .ok response ∧ response.decode? Node.value = some body ∧
    (entries body).find? isMarkedPrivate = some members ∧ Jwk.ofMembers members = .ok pair ∧
      pair.kind = "RSA" ∧ pair.hasMember "d" = true

theorem privateKeyOf_ok (body : Value) (set : String) (pair : Jwk) :
    privateKeyOf body set = .ok pair ↔
      ∃ members, (entries body).find? isMarkedPrivate = some members ∧
        Jwk.ofMembers members = .ok pair ∧ pair.kind = "RSA" ∧ pair.hasMember "d" = true := by
  unfold privateKeyOf
  constructor
  · intro read
    cases found : (entries body).find? isMarkedPrivate with
    | none =>
        rw [found] at read
        cases read
    | some members =>
        simp only [found] at read
        cases checked : Jwk.ofMembers members with
        | error e =>
            rw [checked] at read
            cases read
        | ok key =>
            simp only [checked] at read
            by_cases kind : key.kind = "RSA"
            · rw [if_neg (not_not_intro kind)] at read
              by_cases whole : key.hasMember "d" = true
              · rw [if_pos whole] at read
                cases read
                exact ⟨members, rfl, checked, kind, whole⟩
              · rw [if_neg whole] at read
                cases read
            · rw [if_pos kind] at read
              cases read
  · rintro ⟨members, found, checked, kind, whole⟩
    simp only [found, checked]
    rw [if_neg (not_not_intro kind), if_pos whole]

/-- The key that comes of an answer of the key service. -/
def keyOf (set : String) (answer : Except KeyError Http.Response) : Except KeyError SigningKey :=
  answer.bind (decode set)

theorem keyOf_ok (set : String) (answer : Except KeyError Http.Response) (key : SigningKey) :
    keyOf set answer = .ok key ↔
      ∃ pair, Brings answer pair ∧ key = .ofPrivate pair (set ++ ":public") := by
  constructor
  · intro made
    cases answer with
    | error e => cases made
    | ok response =>
        change decode set response = .ok key at made
        unfold decode at made
        cases body : response.decode? Node.value with
        | none =>
            rw [body] at made
            cases made
        | some value =>
            rw [body] at made
            change Except.map _ (privateKeyOf value set) = _ at made
            cases chosen : privateKeyOf value set with
            | error e =>
                rw [chosen] at made
                cases made
            | ok pair =>
                rw [chosen] at made
                cases made
                obtain ⟨members, found⟩ := (privateKeyOf_ok value set pair).mp chosen
                exact ⟨pair, ⟨response, value, members, rfl, body, found⟩, rfl⟩
  · rintro ⟨pair, ⟨response, value, members, rfl, body, found⟩, rfl⟩
    change decode set response = _
    unfold decode
    rw [body]
    change Except.map _ (privateKeyOf value set) = _
    rw [(privateKeyOf_ok value set pair).mpr ⟨members, found⟩]
    rfl

theorem load_service (env : Environment σ) (baseUrl set : String) (s after : σ)
    (answer : Except KeyError Http.Response)
    (asked : (request env baseUrl set).run s = .ok (answer, after)) :
    ((KeySource.service baseUrl set).load env).run s = .ok (keyOf set answer, after) := by
  refine (Action.run_bind_ok _ _ s _).mpr ⟨answer, after, asked, ?_⟩
  cases answer with
  | error e => rfl
  | ok response => rfl

end KeySource

namespace KeyAction

theorem reload_ok (env : Environment σ) (keys : KeyManager) (key : SigningKey) (s after : σ)
    (loaded : (keys.source.load env).run s = .ok (.ok key, after)) :
    ((reload env).run keys).run s = .ok ((.ok key, ⟨keys.source, some key⟩), after) := by
  refine (run_bind_ok _ _ keys s _).mpr ⟨keys, keys, s, rfl, ?_⟩
  exact (run_bind_ok _ _ keys s _).mpr ⟨_, _, _, run_lift_ok _ keys s _ after loaded, rfl⟩

theorem reload_error (env : Environment σ) (keys : KeyManager) (e : KeyError) (s after : σ)
    (loaded : (keys.source.load env).run s = .ok (.error e, after)) :
    ((reload env).run keys).run s = .ok ((.error e, keys), after) := by
  refine (run_bind_ok _ _ keys s _).mpr ⟨keys, keys, s, rfl, ?_⟩
  exact (run_bind_ok _ _ keys s _).mpr ⟨_, _, _, run_lift_ok _ keys s _ after loaded, rfl⟩

theorem refresh_ok (env : Environment σ) (keys : KeyManager) (key : SigningKey) (s after : σ)
    (loaded : (keys.source.load env).run s = .ok (.ok key, after)) :
    ((refresh env).run keys).run s = .ok ((.ok (), ⟨keys.source, some key⟩), after) :=
  (run_bind_ok _ _ keys s _).mpr ⟨_, _, _, reload_ok env keys key s after loaded, rfl⟩

theorem refresh_error (env : Environment σ) (keys : KeyManager) (e : KeyError) (s after : σ)
    (loaded : (keys.source.load env).run s = .ok (.error e, after)) :
    ((refresh env).run keys).run s = .ok ((.error e, keys), after) :=
  (run_bind_ok _ _ keys s _).mpr ⟨_, _, _, reload_error env keys e s after loaded, rfl⟩

theorem sign_held (env : Environment σ) (source : KeySource) (key : SigningKey) (claims : Members) (s : σ) :
    ((sign env claims).run ⟨source, some key⟩).run s =
      .ok ((key.sign claims, ⟨source, some key⟩), s) := rfl

end KeyAction

/-- How a refresh ends, by what the key service answered: what it brings is put into place. A pair that is fit
signs all claims, and its public part checks them if it checks at all; one that is refused signs none. In
between there are numbers that do not belong together; what comes of them is left open. Where the answer
brings nothing, the key that was held stays. -/
inductive KeyRefreshed (env : Environment σ) (source : KeySource) (set : String)
    (answer : Except KeyError Http.Response) (held : Option SigningKey) :
    Except KeyError Unit → Option SigningKey → Prop
  | kept (e : KeyError) (brings : ∀ pair, ¬ KeySource.Brings answer pair) :
      KeyRefreshed env source set answer held (.error e) held
  | usable (pair : Jwk) (brings : KeySource.Brings answer pair) (fit : pair.FitToSign)
      (signs : ∀ claims s, ∃ token,
        ((KeyAction.sign env claims).run ⟨source, some (.ofPrivate pair (set ++ ":public"))⟩).run s =
          .ok ((.ok token, ⟨source, some (.ofPrivate pair (set ++ ":public"))⟩), s) ∧
        ∀ numbers, pair.Reads numbers →
          (SigningKey.ofPrivate pair (set ++ ":public")).publicKey.verifies .rs256 token.message
            token.signature = Rsa.isCheckable numbers.modulus numbers.publicExponent) :
      KeyRefreshed env source set answer held (.ok ()) (some (.ofPrivate pair (set ++ ":public")))
  | refused (pair : Jwk) (brings : KeySource.Brings answer pair) (refused : ¬ pair.Operable)
      (cause : JoseError) (refuses : ∀ claims s,
        ((KeyAction.sign env claims).run ⟨source, some (.ofPrivate pair (set ++ ":public"))⟩).run s =
          .ok ((.error (.jose cause), ⟨source, some (.ofPrivate pair (set ++ ":public"))⟩), s)) :
      KeyRefreshed env source set answer held (.ok ()) (some (.ofPrivate pair (set ++ ":public")))
  | unsettled (pair : Jwk) (brings : KeySource.Brings answer pair) (operable : pair.Operable)
      (unfit : ¬ pair.FitToSign) :
      KeyRefreshed env source set answer held (.ok ()) (some (.ofPrivate pair (set ++ ":public")))

/-- A refresh from the key service installs whatever pair the answer brings. One with valid numbers and labels
that allow it signs from then on; one that signs nothing replaces the key that was held all the same. -/
theorem refresh_installs (env : Environment σ) (baseUrl set : String) (held : Option SigningKey) (s : σ) :
    ∃ answer after result current,
      (KeySource.request env baseUrl set).run s = .ok (answer, after) ∧
        ((KeyAction.refresh env).run ⟨.service baseUrl set, held⟩).run s =
          .ok ((result, ⟨.service baseUrl set, current⟩), after) ∧
        KeyRefreshed env (.service baseUrl set) set answer held result current := by
  obtain ⟨⟨answer, after⟩, asked⟩ := request_ends env baseUrl set s
  have loaded := KeySource.load_service env baseUrl set s after answer asked
  cases made : KeySource.keyOf set answer with
  | error e =>
      rw [made] at loaded
      refine ⟨answer, after, .error e, held, asked, KeyAction.refresh_error env _ e s after loaded, ?_⟩
      refine .kept e fun pair brings => ?_
      have found := (KeySource.keyOf_ok set answer _).mpr ⟨pair, brings, rfl⟩
      rw [made] at found
      cases found
  | ok key =>
      rw [made] at loaded
      obtain ⟨pair, brings, rfl⟩ := (KeySource.keyOf_ok set answer key).mp made
      refine ⟨answer, after, .ok (), some _, asked, KeyAction.refresh_ok env _ _ s after loaded, ?_⟩
      by_cases operable : pair.Operable
      · by_cases fit : pair.FitToSign
        · refine .usable pair brings fit fun claims s => ?_
          obtain ⟨token, signed, checked⟩ := SigningKey.sign_of_fit pair (set ++ ":public") fit claims
          exact ⟨token, by rw [KeyAction.sign_held, signed], checked⟩
        · exact .unsettled pair brings operable fit
      · obtain ⟨cause, failed⟩ := SigningKey.sign_of_refused pair (set ++ ":public") operable
        refine .refused pair brings operable cause fun claims s => ?_
        rw [KeyAction.sign_held, failed]

/-! ## A key service that plays back answers -/

def replaying : Environment (List Http.Response) where
  exchange _ answers := (answers.head?, answers.tail)
  now answers := (.ofSeconds 0, answers)
  random size answers := (List.replicate size 0, answers)
  fileContent _ answers := (.error "", answers)
  report _ answers := answers
  listen _ answers := (.ok (), answers)

namespace KeySource

theorem fetch_replayed (request_ : Http.Outgoing) (response : Http.Response) (rest : List Http.Response)
    (askable : Http.Outgoing.isAskable request_.url = true)
    (stays : Http.redirected request_ response = none) :
    (Http.fetch replaying (.ok request_)).run (response :: rest) = .ok (.ok response, rest) := by
  have sent : (Http.sendOnce replaying request_).run (response :: rest) = .ok (.ok response, rest) := by
    unfold Http.sendOnce
    rw [if_pos askable]
    rfl
  rw [Http.fetch, Http.maxRedirects, Http.follow]
  refine (Action.run_bind_ok _ _ _ _).mpr ⟨.ok response, rest, sent, ?_⟩
  simp only [stays]
  rfl

theorem request_replayed (baseUrl set : String) (request_ : Http.Outgoing) (response : Http.Response)
    (rest : List Http.Response)
    (built : Http.Outgoing.ofText .get (setUrl baseUrl set) = .ok request_)
    (askable : Http.Outgoing.isAskable request_.url = true) (fine : response.status = 200) :
    (request replaying baseUrl set).run (response :: rest) = .ok (.ok response, rest) := by
  have fetched := fetch_replayed request_ response rest askable (by simp [Http.redirected, fine])
  unfold request
  dsimp only
  rw [built]
  refine (Action.run_bind_ok _ _ _ _).mpr ⟨.ok response, rest, fetched, ?_⟩
  simp only [fine, if_true]
  rfl

end KeySource

namespace Json

theorem readsBack_texts (depth : Nat) (members : Members) (room : depth < depthLimit)
    (distinct : (Members.names members).Nodup)
    (texts : ∀ member ∈ members, ∃ text, member.2 = .string text) : ReadsBack depth (.object members) := by
  refine readsBack_object depth members room distinct fun member inside => ?_
  obtain ⟨text, same⟩ := texts member inside
  rw [same]
  exact readsBack_string _ text

end Json

theorem Http.Response.decode_json (status : Nat) (value : Value) (back : ReadsBack 0 value) :
    (Http.Response.json status value).decode? Node.value = some value := by
  obtain ⟨node, read, denotes⟩ := ofChars_printed value back
  change (Utf8.decode? (Utf8.encode value.chars)).bind _ = _
  rw [Utf8.decode_encode, Option.bind_some, read, Document.read, denotes.value_ok]
  rfl

theorem Json.readsBack_keySet (keys : List Jwk) (distinct : ∀ key ∈ keys, (Members.names key.members).Nodup)
    (texts : ∀ key ∈ keys, ∀ member ∈ key.members, ∃ text, member.2 = .string text) :
    ReadsBack 0 (KeyAction.keySet keys) := by
  have list : ReadsBack 1 (.array (keys.map fun key => .object key.members)) := by
    refine readsBack_array 1 _ (by decide) ?_ ?_
    · intro value member
      obtain ⟨key, -, rfl⟩ := List.mem_map.mp member
      exact Value.startsOwn_object key.members
    · intro value member
      obtain ⟨key, inside, rfl⟩ := List.mem_map.mp member
      exact readsBack_texts 2 key.members (by decide) (distinct key inside) (texts key inside)
  refine readsBack_object 0 _ (by decide) (by simp [Members.names]) fun member inside => ?_
  rw [List.mem_singleton.mp inside]
  exact list

theorem KeySource.brings_replayed (members : Members) (key : Jwk)
    (distinct : (Members.names members).Nodup)
    (texts : ∀ member ∈ members, ∃ text, member.2 = .string text)
    (marked : isMarkedPrivate members = true) (read : Jwk.ofMembers members = .ok key)
    (kind : key.kind = "RSA") (whole : key.hasMember "d" = true) :
    Brings (.ok (.json 200 (KeyAction.keySet [⟨members⟩]))) key := by
  have back : ReadsBack 0 (KeyAction.keySet [⟨members⟩]) :=
    Json.readsBack_keySet [⟨members⟩] (by simpa using distinct) (by simpa using texts)
  refine ⟨_, _, members, rfl, Http.Response.decode_json 200 _ back, ?_, read, kind, whole⟩
  change [members].find? isMarkedPrivate = some members
  rw [List.find?_cons_of_pos marked]

/-! ## A key that loses its fitness -/

namespace Jwk

/-- A valid key that is labelled for an algorithm. -/
def sample (algorithm : String) : Members :=
  ("kid", .string "private:a") :: ("alg", .string algorithm) :: (ofRsa Rsa.sample).members

theorem sample_fit : (⟨sample "RS256"⟩ : Jwk).FitToSign where
  kind := rfl
  use := .inl rfl
  operations listed found := by cases found
  algorithm := .inr rfl
  numbers := by
    refine ⟨Rsa.sample, Rsa.valid_sample, Rsa.sample_large, ?_⟩
    simp only [Carries, ofRsa, List.forall_mem_cons, List.not_mem_nil, false_implies, implies_true, and_true]
    exact ⟨rfl, rfl, rfl, rfl, rfl, rfl, rfl, rfl, rfl⟩

theorem checkMember_number (name : String) (n : Nat) (plain : name ∉ textNames ∧ name ≠ "key_ops" ∧ name ≠ "x5c") :
    checkMember (name, numberText n) = .ok () := by
  obtain ⟨texts, operations, chain⟩ := plain
  have octets : isOctetText (String.ofList (Base64.encodeUrl (Rsa.octetsOf (Rsa.width n) n))) = true := by
    rw [isOctetText, String.toList_ofList, Base64.decodeUrl_encodeUrl]
    rfl
  simp [checkMember, texts, operations, chain, numberText, octets]

theorem ofMembers_of_checked (members : Members) (kind : (members.get? "kty").isSome = true)
    (checked : ∀ member ∈ members, checkMember member = .ok ()) : Jwk.ofMembers members = .ok ⟨members⟩ := by
  have all : ∀ rest : Members, (∀ member ∈ rest, checkMember member = .ok ()) →
      rest.forM checkMember = .ok () := by
    intro rest checked
    induction rest with
    | nil => rfl
    | cons member rest ih =>
        obtain ⟨first, others⟩ := List.forall_mem_cons.mp checked
        change (checkMember member).bind (fun _ => rest.forM checkMember) = _
        rw [first]
        exact ih others
  unfold Jwk.ofMembers
  rw [all members checked, if_pos kind]
  rfl

theorem sample_read (algorithm : String) : Jwk.ofMembers (sample algorithm) = .ok ⟨sample algorithm⟩ := by
  refine ofMembers_of_checked (sample algorithm) rfl ?_
  simp only [sample, ofRsa, List.forall_mem_cons, List.not_mem_nil, false_implies, implies_true, and_true]
  exact ⟨rfl, rfl, rfl, checkMember_number "n" _ (by decide), checkMember_number "e" _ (by decide),
    checkMember_number "d" _ (by decide), checkMember_number "p" _ (by decide),
    checkMember_number "q" _ (by decide), checkMember_number "dp" _ (by decide),
    checkMember_number "dq" _ (by decide), checkMember_number "qi" _ (by decide)⟩

theorem sample_distinct (algorithm : String) : (Members.names (sample algorithm)).Nodup := by
  have names : Members.names (sample algorithm) =
      ["kid", "alg", "kty", "n", "e", "d", "p", "q", "dp", "dq", "qi"] := rfl
  rw [names]
  decide

theorem sample_texts (algorithm : String) :
    ∀ member ∈ sample algorithm, ∃ text, member.2 = .string text := by
  intro member inside
  simp only [sample, ofRsa, List.mem_cons, List.not_mem_nil, or_false] at inside
  rcases inside with rfl | rfl | rfl | rfl | rfl | rfl | rfl | rfl | rfl | rfl | rfl
  all_goals exact ⟨_, rfl⟩

end Jwk

namespace KeySource

def sampleAnswer (algorithm : String) : Http.Response :=
  .json 200 (KeyAction.keySet [⟨Jwk.sample algorithm⟩])

theorem sampleAnswer_brings (algorithm : String) :
    Brings (.ok (sampleAnswer algorithm)) ⟨Jwk.sample algorithm⟩ :=
  brings_replayed _ _ (Jwk.sample_distinct algorithm) (Jwk.sample_texts algorithm) rfl
    (Jwk.sample_read algorithm) rfl rfl

theorem load_sample (algorithm : String) (rest : List Http.Response) :
    ((service "http://[::1]" "set").load replaying).run (sampleAnswer algorithm :: rest) =
      .ok (.ok (.ofPrivate ⟨Jwk.sample algorithm⟩ "set:public"), rest) := by
  have built : (Http.Outgoing.ofText .get (setUrl "http://[::1]" "set")).toOption.any
      (Http.Outgoing.isAskable ·.url) = true := by decide +kernel
  cases found : Http.Outgoing.ofText .get (setUrl "http://[::1]" "set") with
  | error e =>
      rw [found] at built
      cases built
  | ok request_ =>
      rw [found] at built
      have asked := request_replayed "http://[::1]" "set" request_ (sampleAnswer algorithm) rest found
        built rfl
      rw [load_service replaying "http://[::1]" "set" _ rest _ asked,
        (keyOf_ok "set" _ _).mpr ⟨_, sampleAnswer_brings algorithm, rfl⟩]
      rfl

end KeySource

/-- A key that signs is replaced by one that never does, and the refresh says that all is well. -/
theorem KeyAction.unfit_key_installed :
    let source := KeySource.service "http://[::1]" "set"
    let fit := SigningKey.ofPrivate ⟨Jwk.sample "RS256"⟩ "set:public"
    let unfit := SigningKey.ofPrivate ⟨Jwk.sample "RS512"⟩ "set:public"
    let answers := [KeySource.sampleAnswer "RS256", KeySource.sampleAnswer "RS512"]
    ((refresh replaying).run ⟨source, none⟩).run answers =
        .ok ((.ok (), ⟨source, some fit⟩), answers.tail) ∧
      (∀ claims s, ∃ token,
        ((sign replaying claims).run ⟨source, some fit⟩).run s =
          .ok ((.ok token, ⟨source, some fit⟩), s)) ∧
      ((refresh replaying).run ⟨source, some fit⟩).run answers.tail =
        .ok ((.ok (), ⟨source, some unfit⟩), []) ∧
      ∀ claims s, ((sign replaying claims).run ⟨source, some unfit⟩).run s =
        .ok ((.error (.jose (.badKey "A parameter alg must be RS256 but RS512")),
          ⟨source, some unfit⟩), s) := by
  refine ⟨refresh_ok _ _ _ _ _ (KeySource.load_sample "RS256" _), fun claims s => ?_,
    refresh_ok _ _ _ _ _ (KeySource.load_sample "RS512" []), fun claims s => ?_⟩
  · obtain ⟨token, signed, -⟩ := SigningKey.sign_of_fit _ "set:public" Jwk.sample_fit claims
    exact ⟨token, by rw [sign_held, signed]⟩
  · rw [sign_held]
    rfl

end AccessGate
