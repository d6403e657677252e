import AccessGate.Proofs.UsableKey

/-!
The held key over time. Whatever is asked of the holder and whatever the source answers, the key is the
one of the last load that succeeded, and a key is loaded only by a refresh or while none is held. Tokens
are signed with the held key. Their headers name it as others know it, unless the key is a pair of the key
service: then they name it as the service does.
-/

namespace AccessGate

open Json

variable {σ : Type}

/-! ## Calls -/

/-- What is asked of the holder of the key. -/
inductive KeyCall where
  | refresh
  | sign (claims : Members)
  | publicKey
  | keyId
  | published

inductive KeyAnswer where
  | refreshed
  | token (token : Token)
  | publicKey (key : Jwk)
  | keyId (id : String)
  | published (keys : List Jwk)

namespace KeyCall

def carryOut (env : Environment σ) : KeyCall → KeyAction σ (Except KeyError KeyAnswer)
  | refresh => do return (← KeyAction.refresh env).map fun _ => .refreshed
  | sign claims => do return (← KeyAction.sign env claims).map .token
  | publicKey => do return (← KeyAction.publicKey env).map .publicKey
  | keyId => do return (← KeyAction.keyId env).map .keyId
  | published => do return (← KeyAction.published env).map .published

/-- What a key that is in place answers. -/
def answerWith (call : KeyCall) (key : SigningKey) : Except KeyError KeyAnswer :=
  match call with
  | refresh => .ok .refreshed
  | sign claims => (key.sign claims).map .token
  | publicKey => .ok (.publicKey key.publicKey)
  | keyId => .ok (.keyId key.id)
  | published => .ok (.published [key.publicKey])

/-- A shared secret has nothing to publish, so nothing is looked up. -/
def IsIdle (source : KeySource) : KeyCall → Prop
  | published => source.algorithm.isSymmetric = true
  | _ => False

end KeyCall

/-- A call that was carried out: what the source answered, if it was asked, what the caller was told, and
the key that is held from then on. -/
structure KeyEvent where
  call : KeyCall
  loaded : Option (Except KeyError SigningKey)
  answer : Except KeyError KeyAnswer
  held : Option SigningKey

/-- What one call does, by the key that is held before it. -/
inductive KeyStep (env : Environment σ) (source : KeySource) :
    Option SigningKey → σ → KeyEvent → σ → Prop
  | idle (call : KeyCall) (held : Option SigningKey) (s : σ) (idle : call.IsIdle source) :
      KeyStep env source held s ⟨call, none, .ok (.published []), held⟩ s
  | used (call : KeyCall) (key : SigningKey) (s : σ) (asks : ¬ call.IsIdle source)
      (keeps : call ≠ .refresh) :
      KeyStep env source (some key) s ⟨call, none, call.answerWith key, some key⟩ s
  | loaded (call : KeyCall) (held : Option SigningKey) (s : σ) (key : SigningKey) (after : σ)
      (asks : ¬ call.IsIdle source) (needs : call = .refresh ∨ held = none)
      (brought : (source.load env).run s = .ok (.ok key, after)) :
      KeyStep env source held s ⟨call, some (.ok key), call.answerWith key, some key⟩ after
  | failed (call : KeyCall) (held : Option SigningKey) (s : σ) (e : KeyError) (after : σ)
      (asks : ¬ call.IsIdle source) (needs : call = .refresh ∨ held = none)
      (brought : (source.load env).run s = .ok (.error e, after)) :
      KeyStep env source held s ⟨call, some (.error e), .error e, held⟩ after

namespace KeyAction

theorem signingKey_held (env : Environment σ) (source : KeySource) (key : SigningKey) (s : σ) :
    ((signingKey env).run ⟨source, some key⟩).run s = .ok ((.ok key, ⟨source, some key⟩), s) := rfl

theorem signingKey_missing (env : Environment σ) (source : KeySource) (s : σ) :
    ((signingKey env).run ⟨source, none⟩).run s = ((reload env).run ⟨source, none⟩).run s := rfl

end KeyAction

namespace KeyCall

theorem carryOut_found (env : Environment σ) (call : KeyCall) (keys current : KeyManager) (s after : σ)
    (found : Except KeyError SigningKey) (asks : ¬ call.IsIdle keys.source) (keeps : call ≠ .refresh)
    (ran : ((KeyAction.signingKey env).run keys).run s = .ok ((found, current), after)) :
    ((call.carryOut env).run keys).run s = .ok ((found.bind call.answerWith, current), after) := by
  have step : ∀ {α : Type} (next : Except KeyError SigningKey → α),
      ((do return next (← KeyAction.signingKey env) : KeyAction σ α).run keys).run s =
        .ok ((next found, current), after) := fun next =>
    (KeyAction.run_bind_ok _ _ keys s _).mpr ⟨found, current, after, ran, rfl⟩
  cases call with
  | refresh => exact absurd rfl keeps
  | sign claims =>
      refine (KeyAction.run_bind_ok _ _ keys s _).mpr ⟨_, _, _, step (·.bind (·.sign claims)), ?_⟩
      cases found with
      | error e => rfl
      | ok key => rfl
  | publicKey =>
      refine (KeyAction.run_bind_ok _ _ keys s _).mpr ⟨_, _, _, step (Except.map SigningKey.publicKey), ?_⟩
      cases found with
      | error e => rfl
      | ok key => rfl
  | keyId =>
      refine (KeyAction.run_bind_ok _ _ keys s _).mpr ⟨_, _, _, step (Except.map SigningKey.id), ?_⟩
      cases found with
      | error e => rfl
      | ok key => rfl
  | published =>
      have listed : ((KeyAction.published env).run keys).run s =
          .ok (((found.map SigningKey.publicKey).map fun key => [key], current), after) := by
        refine (KeyAction.run_bind_ok _ _ keys s _).mpr ⟨keys, keys, s, rfl, ?_⟩
        rw [if_neg (show ¬ keys.algorithm.isSymmetric = true from asks)]
        exact (KeyAction.run_bind_ok _ _ keys s _).mpr ⟨_, _, _, step (Except.map SigningKey.publicKey), rfl⟩
      refine (KeyAction.run_bind_ok _ _ keys s _).mpr ⟨_, _, _, listed, ?_⟩
      cases found with
      | error e => rfl
      | ok key => rfl

theorem carryOut_idle (env : Environment σ) (call : KeyCall) (keys : KeyManager) (s : σ)
    (idle : call.IsIdle keys.source) :
    ((call.carryOut env).run keys).run s = .ok ((.ok (.published []), keys), s) := by
  cases call with
  | published =>
      have listed : ((KeyAction.published env).run keys).run s = .ok ((.ok [], keys), s) := by
        refine (KeyAction.run_bind_ok _ _ keys s _).mpr ⟨keys, keys, s, rfl, ?_⟩
        rw [if_pos (show keys.algorithm.isSymmetric = true from idle)]
        rfl
      exact (KeyAction.run_bind_ok _ _ keys s _).mpr ⟨_, _, _, listed, rfl⟩
  | _ => exact idle.elim

theorem carryOut_loads (env : Environment σ) (source : KeySource) (call : KeyCall)
    (held : Option SigningKey) (s : σ) (asks : ¬ call.IsIdle source)
    (needs : call = .refresh ∨ held = none) :
    ∃ event after, event.call = call ∧ KeyStep env source held s event after ∧
      ((call.carryOut env).run ⟨source, held⟩).run s =
        .ok ((event.answer, ⟨source, event.held⟩), after) := by
  obtain ⟨⟨loaded, after⟩, brought⟩ := load_ends env source s
  cases loaded with
  | error e =>
      refine ⟨_, after, rfl, .failed call held s e after asks needs brought, ?_⟩
      by_cases fresh : call = .refresh
      · subst fresh
        exact (KeyAction.run_bind_ok _ _ _ s _).mpr
          ⟨_, _, _, KeyAction.refresh_error env ⟨source, held⟩ e s after brought, rfl⟩
      · obtain rfl := needs.resolve_left fresh
        exact carryOut_found env call _ _ s after (.error e) asks fresh
          (KeyAction.reload_error env ⟨source, none⟩ e s after brought)
  | ok key =>
      refine ⟨_, after, rfl, .loaded call held s key after asks needs brought, ?_⟩
      by_cases fresh : call = .refresh
      · subst fresh
        exact (KeyAction.run_bind_ok _ _ _ s _).mpr
          ⟨_, _, _, KeyAction.refresh_ok env ⟨source, held⟩ key s after brought, rfl⟩
      · obtain rfl := needs.resolve_left fresh
        exact carryOut_found env call _ _ s after (.ok key) asks fresh
          (KeyAction.reload_ok env ⟨source, none⟩ key s after brought)

/-- Each call comes to an end, in one of the four ways. -/
theorem carryOut_steps (env : Environment σ) (source : KeySource) (call : KeyCall)
    (held : Option SigningKey) (s : σ) :
    ∃ event after, event.call = call ∧ KeyStep env source held s event after ∧
      ((call.carryOut env).run ⟨source, held⟩).run s =
        .ok ((event.answer, ⟨source, event.held⟩), after) := by
  by_cases idle : call.IsIdle source
  · exact ⟨_, s, rfl, .idle call held s idle, carryOut_idle env call ⟨source, held⟩ s idle⟩
  · by_cases fresh : call = .refresh
    · exact carryOut_loads env source call held s idle (.inl fresh)
    · cases held with
      | none => exact carryOut_loads env source call none s idle (.inr rfl)
      | some key =>
          exact ⟨_, s, rfl, .used call key s idle fresh,
            carryOut_found env call _ _ s s (.ok key) idle fresh rfl⟩

/-- Carries out one call after the other. -/
def carryOutAll (env : Environment σ) : List KeyCall → KeyAction σ (List (Except KeyError KeyAnswer))
  | [] => pure []
  | call :: rest => do
      let answer ← call.carryOut env
      let others ← carryOutAll env rest
      pure (answer :: others)

end KeyCall

/-! ## Courses of calls -/

/-- Some calls in a row. -/
inductive KeyCourse (env : Environment σ) (source : KeySource) :
    Option SigningKey → σ → List KeyEvent → Option SigningKey → σ → Prop
  | done (held : Option SigningKey) (s : σ) : KeyCourse env source held s [] held s
  | step (held last : Option SigningKey) (s between after : σ) (event : KeyEvent)
      (events : List KeyEvent) (first : KeyStep env source held s event between)
      (rest : KeyCourse env source event.held between events last after) :
      KeyCourse env source held s (event :: events) last after

/-- The key of a load that succeeded. -/
def KeyEvent.key? (event : KeyEvent) : Option SigningKey := event.loaded.bind Except.toOption

/-- The key of the last load that succeeded. -/
def lastLoaded (events : List KeyEvent) : Option SigningKey := (events.filterMap KeyEvent.key?).getLast?

theorem KeyStep.held_eq {env : Environment σ} {source : KeySource} {held : Option SigningKey}
    {s after : σ} {event : KeyEvent} (step : KeyStep env source held s event after) :
    event.held = event.key?.or held := by
  cases step with
  | idle call held s idle => rfl
  | used call key s asks keeps => rfl
  | loaded call held s key after asks needs brought => rfl
  | failed call held s e after asks needs brought => rfl

-- By induction on the calls: each one ends, and the next one starts where it ended.
theorem carryOutAll_runs (env : Environment σ) (source : KeySource) (calls : List KeyCall)
    (held : Option SigningKey) (s : σ) :
    ∃ events last after, events.map KeyEvent.call = calls ∧
      KeyCourse env source held s events last after ∧
      ((KeyCall.carryOutAll env calls).run ⟨source, held⟩).run s =
        .ok ((events.map KeyEvent.answer, ⟨source, last⟩), after) := by
  induction calls generalizing held s with
  | nil => exact ⟨[], held, s, rfl, .done held s, rfl⟩
  | cons call calls ih =>
      obtain ⟨event, between, same, step, ran⟩ := call.carryOut_steps env source held s
      obtain ⟨events, last, after, others, course, finished⟩ := ih event.held between
      refine ⟨event :: events, last, after, ?_, .step held last s between after event events step course, ?_⟩
      · rw [List.map_cons, same, others]
      · refine (KeyAction.run_bind_ok _ _ _ s _).mpr ⟨_, _, between, ran, ?_⟩
        exact (KeyAction.run_bind_ok _ _ _ between _).mpr ⟨_, _, after, finished, rfl⟩

-- By induction on the course: every load that succeeds takes the place of the key before it.
theorem KeyCourse.last_eq {env : Environment σ} {source : KeySource} {held last : Option SigningKey}
    {s after : σ} {events : List KeyEvent} (course : KeyCourse env source held s events last after) :
    last = (lastLoaded events).or held := by
  induction course with
  | done held s => rfl
  | step held last s between after event events first rest ih =>
      rw [ih, first.held_eq]
      unfold lastLoaded
      cases loaded : event.key? with
      | none => rw [List.filterMap_cons_none loaded, Option.none_or]
      | some key =>
          rw [List.filterMap_cons_some loaded, List.getLast?_cons]
          cases (events.filterMap KeyEvent.key?).getLast? with
          | none => rfl
          | some later => rfl

/-! ## Where keys come from -/

/-- The sources that a gate can be set up with. -/
inductive KeyOrigin where
  | made (bits : Nat) (id : String)
  | service (baseUrl set : String)
  | secret (octets : Http.Octets) (id : String)

theorem Jwk.ofMembers_ok (members : Members) (key : Jwk) (read : Jwk.ofMembers members = .ok key) :
    key.members = members := by
  obtain ⟨⟨⟩, -, made⟩ := (Url.bind_ok _ _ _).mp read
  by_cases told : (members.get? "kty").isSome = true
  · rw [if_pos told] at made
    cases made
    rfl
  · rw [if_neg told] at made
    cases made

namespace KeyOrigin

def source : KeyOrigin → KeySource
  | made bits id => .made bits id
  | service baseUrl set => .service baseUrl set
  | secret octets id => .agreed (.ofSecret octets id)

/-- The keys that an origin can give. A pair of the key service has an identifier of its own, which marks
it as private. -/
inductive Yields : KeyOrigin → SigningKey → Prop
  | made (bits : Nat) (id : String) (numbers : Rsa.PrivateKey) :
      Yields (.made bits id) (.ofPrivate (.ofRsa numbers) id)
  | service (baseUrl set : String) (pair : Jwk) (own : String) (named : pair.id? = some own)
      (marked : KeySource.occurs KeySource.privateMark own.toList = true) :
      Yields (.service baseUrl set) (.ofPrivate pair (set ++ ":public"))
  | secret (octets : Http.Octets) (id : String) : Yields (.secret octets id) (.ofSecret octets id)

/-- Whether tokens name a key as others know it. -/
def NamesAlike : KeyOrigin → SigningKey → Prop
  | service _ _, key => key.privateKey.id? = some key.id
  | _, _ => True

theorem load_yields (env : Environment σ) (origin : KeyOrigin) (s after : σ) (key : SigningKey)
    (brought : (origin.source.load env).run s = .ok (.ok key, after)) : origin.Yields key := by
  cases origin with
  | made bits id =>
      change (KeySource.make env bits id).run s = _ at brought
      unfold KeySource.make at brought
      by_cases large : bits > KeySource.maxBits
      · rw [if_pos large] at brought
        cases brought
      · rw [if_neg large] at brought
        obtain ⟨numbers, between, -, made⟩ := (Action.run_bind_ok _ _ s _).mp brought
        cases numbers with
        | none => cases made
        | some numbers =>
            cases made
            exact .made bits id numbers
  | service baseUrl set =>
      obtain ⟨⟨answer, later⟩, asked⟩ := request_ends env baseUrl set s
      have loaded := KeySource.load_service env baseUrl set s later answer asked
      have same := Except.ok.inj (loaded.symm.trans brought)
      obtain ⟨pair, ⟨response, body, members, -, -, found, read, -, -⟩, rfl⟩ :=
        (KeySource.keyOf_ok set answer key).mp (Prod.mk.inj same).1
      have marked := List.find?_some found
      have same := Jwk.ofMembers_ok members pair read
      unfold KeySource.isMarkedPrivate at marked
      cases named : members.text? "kid" with
      | none =>
          rw [named] at marked
          cases marked
      | some own =>
          rw [named] at marked
          exact .service baseUrl set pair own (by rw [Jwk.id?, Jwk.text?, same, named]) marked
  | secret octets id =>
      cases brought
      exact .secret octets id

end KeyOrigin

/-! ## Tokens and public parts -/

theorem Jwk.signer_labels (key : Jwk) (algorithm : SigningAlgorithm) (signer : Jwk.Signer)
    (made : key.signer algorithm = .ok signer) :
    signer.keyId = key.id? ∧ signer.algorithm = algorithm := by
  unfold Jwk.signer at made
  simp only [Url.bind_ok] at made
  obtain ⟨⟨⟩, -, ⟨⟩, -, ⟨⟩, -, ⟨⟩, -, made⟩ := made
  cases algorithm with
  | rs256 =>
      cases signature : key.rsaSignature with
      | error e =>
          rw [signature] at made
          cases made
      | ok signature' =>
          rw [signature] at made
          cases made
          exact ⟨rfl, rfl⟩
  | hs256 =>
      cases secret : key.octets "k" with
      | error e =>
          rw [secret] at made
          cases made
      | ok octets =>
          rw [secret] at made
          cases made
          exact ⟨rfl, rfl⟩

namespace SigningKey

/-- A token is signed with the private part of a key. -/
structure Signs (key : SigningKey) (claims : Members) (token : Token) : Prop where
  claims : token.claims = claims
  algorithm : token.header.get? "alg" = some (.string key.algorithm.name)
  named : token.header.get? "kid" = some (.string (key.privateKey.id?.getD key.id))
  signature : ∃ signer, key.privateKey.signer key.algorithm = .ok signer ∧
    signer.algorithm = key.algorithm ∧ token.signature = signer.signature token.message

theorem signs_of_sign (key : SigningKey) (claims : Members) (token : Token)
    (signed : key.sign claims = .ok token) : key.Signs claims token := by
  unfold sign at signed
  cases made : key.privateKey.signer key.algorithm with
  | error e =>
      rw [made] at signed
      cases signed
  | ok signer =>
      rw [made] at signed
      cases signed
      obtain ⟨insists, alike⟩ := key.privateKey.signer_labels key.algorithm signer made
      refine ⟨rfl, ?_, ?_, signer, made, alike, rfl⟩
      · rw [← alike]
        rfl
      · rw [← insists]
        rfl

end SigningKey

namespace KeyOrigin

theorem yields_paired (origin : KeyOrigin) (key : SigningKey) (yields : origin.Yields key) : key.Paired := by
  cases yields with
  | made bits id numbers => exact SigningKey.ofPrivate_paired _ id
  | service baseUrl set pair own named marked => exact SigningKey.ofPrivate_paired pair _
  | secret octets id => exact SigningKey.ofSecret_paired octets id

/-- A token names its key as others know it exactly when a pair of the key service does so. -/
theorem named_alike (origin : KeyOrigin) (key : SigningKey) (yields : origin.Yields key) (claims : Members)
    (token : Token) (signs : key.Signs claims token) :
    token.header.get? "kid" = some (.string key.id) ↔ origin.NamesAlike key := by
  rw [signs.named]
  cases yields with
  | made bits id numbers => exact iff_of_true rfl trivial
  | secret octets id => exact iff_of_true rfl trivial
  | service baseUrl set pair own named marked =>
      change some (Value.string (pair.id?.getD _)) = _ ↔ pair.id? = _
      rw [named]
      simp

end KeyOrigin

/-- What holds of every call, by the origin of the keys. -/
structure KeyEvent.Sound (origin : KeyOrigin) (event : KeyEvent) : Prop where
  held : ∀ key, event.held = some key → origin.Yields key ∧ key.Paired
  tokens : ∀ claims token, event.call = .sign claims → event.answer = .ok (.token token) →
    ∃ key, event.held = some key ∧ key.Signs claims token ∧
      (token.header.get? "kid" = some (.string key.id) ↔ origin.NamesAlike key)

theorem KeyCall.answerWith_sign (key : SigningKey) (claims : Members) (token : Token) :
    (KeyCall.sign claims).answerWith key = .ok (.token token) ↔ key.sign claims = .ok token := by
  change (key.sign claims).map KeyAnswer.token = _ ↔ _
  cases key.sign claims with
  | error e => simp [Except.map]
  | ok made => simp [Except.map]

theorem KeyCall.answered_sound (origin : KeyOrigin) (call : KeyCall) (key : SigningKey)
    (loaded : Option (Except KeyError SigningKey)) (yields : origin.Yields key) :
    KeyEvent.Sound origin ⟨call, loaded, call.answerWith key, some key⟩ where
  held other same := by
    cases same
    exact ⟨yields, origin.yields_paired key yields⟩
  tokens claims token asked answered := by
    subst asked
    have signs := key.signs_of_sign claims token ((answerWith_sign key claims token).mp answered)
    exact ⟨key, rfl, signs, origin.named_alike key yields claims token signs⟩

theorem KeyStep.sound {env : Environment σ} {origin : KeyOrigin} {held : Option SigningKey} {s after : σ}
    {event : KeyEvent} (before : ∀ key, held = some key → origin.Yields key)
    (step : KeyStep env origin.source held s event after) : event.Sound origin := by
  cases step with
  | idle call held s idle =>
      refine ⟨fun key same => ?_, fun claims token asked answered => by cases answered⟩
      exact ⟨before key same, origin.yields_paired key (before key same)⟩
  | used call key s asks keeps => exact call.answered_sound origin key none (before key rfl)
  | loaded call held s key after asks needs brought =>
      exact call.answered_sound origin key _ (origin.load_yields env s _ key brought)
  | failed call held s e after asks needs brought =>
      refine ⟨fun key same => ?_, fun claims token asked answered => by cases answered⟩
      exact ⟨before key same, origin.yields_paired key (before key same)⟩

-- By induction on the course: what is held before a call came from the same origin.
theorem KeyCourse.sound {env : Environment σ} {origin : KeyOrigin} {held last : Option SigningKey}
    {s after : σ} {events : List KeyEvent} (before : ∀ key, held = some key → origin.Yields key)
    (course : KeyCourse env origin.source held s events last after) :
    ∀ event ∈ events, event.Sound origin := by
  induction course with
  | done held s => simp
  | step held last s between after event events first rest ih =>
      have sound := first.sound before
      intro found member
      rcases List.mem_cons.mp member with rfl | later
      · exact sound
      · exact ih (fun key same => (sound.held key same).1) found later

/-- Whatever is asked and whatever the source answers, the calls come to an end; each does one of four
things, and the key held in the end is the one of the last load that succeeded. All keys come from the
same origin, and every token is signed with the key that is held then. Its header names that key as others
know it for keys that were made or agreed on, and for a pair of the key service only when the service names
the pair like that. -/
theorem held_key_follows (env : Environment σ) (origin : KeyOrigin) (calls : List KeyCall) (s : σ) :
    ∃ events last after, events.map KeyEvent.call = calls ∧
      ((KeyCall.carryOutAll env calls).run (.ofSource origin.source)).run s =
        .ok ((events.map KeyEvent.answer, ⟨origin.source, last⟩), after) ∧
      KeyCourse env origin.source none s events last after ∧
      last = lastLoaded events ∧ ∀ event ∈ events, event.Sound origin := by
  obtain ⟨events, last, after, same, course, ran⟩ := carryOutAll_runs env origin.source calls none s
  refine ⟨events, last, after, same, ran, course, ?_, course.sound fun key none => by cases none⟩
  rw [course.last_eq, Option.or_none]

/-- A token that is signed with a pair of the key service names the pair as the service does, and not as
others know it. -/
theorem service_token_named_apart :
    let source := KeySource.service "http://[::1]" "set"
    let key := SigningKey.ofPrivate ⟨Jwk.sample "RS256"⟩ "set:public"
    ∃ token, ((KeyCall.carryOutAll replaying [.sign [], .keyId]).run (.ofSource source)).run
        [KeySource.sampleAnswer "RS256"] =
          .ok (([.ok (.token token), .ok (.keyId "set:public")], ⟨source, some key⟩), []) ∧
      token.header.get? "kid" = some (.string "private:a") := by
  intro source key
  obtain ⟨token, signed, -⟩ := SigningKey.sign_of_fit _ "set:public" Jwk.sample_fit []
  refine ⟨token, ?_, (key.signs_of_sign [] token signed).named⟩
  have loaded := KeyAction.reload_ok replaying ⟨source, none⟩ key _ [] (KeySource.load_sample "RS256" [])
  rw [← KeyAction.signingKey_missing] at loaded
  have first := KeyCall.carryOut_found replaying (.sign []) _ _ _ _ _ id (by simp) loaded
  have second := KeyCall.carryOut_found replaying .keyId _ _ _ _ _ id (by simp)
    (KeyAction.signingKey_held replaying source key [])
  have answer := (KeyCall.answerWith_sign key [] token).mpr signed
  rw [Except.bind, answer] at first
  refine (KeyAction.run_bind_ok _ _ _ _ _).mpr ⟨_, _, _, first, ?_⟩
  refine (KeyAction.run_bind_ok _ _ _ _ _).mpr ⟨[.ok (.keyId "set:public")], _, _, ?_, rfl⟩
  exact (KeyAction.run_bind_ok _ _ _ _ _).mpr ⟨_, _, _, second, rfl⟩

end AccessGate
