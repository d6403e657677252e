import AccessGate.Gate
import AccessGate.Proofs.HeldKey

/-!
What others are given to check tokens with. A shared secret is not published at all. Of a pair one key is
published: it has the numbers of the key that signs, the name and the labels that the gate gives it, and
nothing that only the owner may know. Tokens say the same name, unless the key service has one of its own
for the pair.
-/

namespace AccessGate

open Json

variable {σ : Type}

namespace KeyOrigin

/-- The name that a pair is published under. -/
def publicId? : KeyOrigin → Option String
  | made _ id => some id
  | service _ set => some (set ++ ":public")
  | secret _ _ => none

theorem isIdle_iff (origin : KeyOrigin) :
    KeyCall.published.IsIdle origin.source ↔ origin.publicId? = none := by
  cases origin with
  | made bits id => exact iff_of_false Bool.false_ne_true nofun
  | service baseUrl set => exact iff_of_false Bool.false_ne_true nofun
  | secret octets id => exact iff_of_true rfl rfl

theorem pair_of_yields (origin : KeyOrigin) (key : SigningKey) (id : String)
    (named : origin.publicId? = some id) (yields : origin.Yields key) :
    key.algorithm = .rs256 ∧ key.id = id := by
  cases yields with
  | made bits name numbers =>
      cases named
      exact ⟨rfl, rfl⟩
  | service baseUrl set pair own known marked =>
      cases named
      exact ⟨rfl, rfl⟩
  | secret octets name => cases named

theorem apart_of_unmarked (baseUrl set : String) (key : SigningKey)
    (yields : (KeyOrigin.service baseUrl set).Yields key)
    (unmarked : KeySource.occurs KeySource.privateMark (set ++ ":public").toList = false) :
    ¬ (KeyOrigin.service baseUrl set).NamesAlike key := by
  intro alike
  cases yields with
  | service _ _ pair own named marked =>
      cases named.symm.trans alike
      cases marked.symm.trans unmarked

end KeyOrigin

/-- The name that the key of a gate is published under by its settings, if it is a pair. -/
def KeySettings.publicId? (settings : KeySettings) : Option String :=
  match settings.choice with
  | .rs256 => some (settings.id.getD KeySource.defaultId)
  | .remote => some (settings.set ++ ":public")
  | .hs256 => none

theorem Gate.keysOf_origin (env : Environment σ) (settings : KeySettings) (s after : σ)
    (keys : KeyManager) (made : (Gate.keysOf env settings).run s = .ok (.ok keys, after)) :
    ∃ origin : KeyOrigin, keys = .ofSource origin.source ∧ origin.publicId? = settings.publicId? := by
  unfold Gate.keysOf at made
  unfold KeySettings.publicId?
  cases chosen : settings.choice with
  | rs256 =>
      simp only [chosen] at made
      by_cases short : settings.bits < 2048
      · rw [if_pos short] at made
        cases made
      · rw [if_neg short] at made
        cases made
        exact ⟨.made settings.bits _, rfl, rfl⟩
  | remote =>
      simp only [chosen] at made
      cases found : settings.remoteUrl with
      | none =>
          rw [found] at made
          cases made
      | some url =>
          rw [found] at made
          cases made
          exact ⟨.service url settings.set, rfl, rfl⟩
  | hs256 =>
      simp only [chosen] at made
      cases found : settings.secret with
      | none =>
          rw [found] at made
          cases made
      | some secret =>
          rw [found] at made
          obtain ⟨agreed, between, drawn, given⟩ := (Action.run_bind_ok _ _ s _).mp made
          unfold KeyManager.ofSecret at drawn
          by_cases short : (Utf8.encode secret.toList).length < KeyManager.minSecretOctets
          · rw [if_pos short] at drawn
            cases drawn
            cases given
          · rw [if_neg short] at drawn
            cases drawn
            cases given
            exact ⟨.secret (Utf8.encode secret.toList) _, rfl, rfl⟩

/-! ## Public parts -/

/-- What a key is published as: its own numbers under the given name, labelled for signatures of the
asymmetric kind. -/
structure SigningKey.PublishedAs (key : SigningKey) (id : String) (members : Members) : Prop where
  named : members.get? "kid" = some (.string id)
  algorithm : members.get? "alg" = some (.string "RS256")
  use : members.get? "use" = some (.string "sig")
  numbers : ∀ name ∈ ["n", "e"], members.get? name = key.privateKey.members.get? name
  hidden : ∀ name ∈ Jwk.privateNames, members.get? name = none

theorem SigningKey.publishedAs_of_paired (key : SigningKey) (pair : key.algorithm = .rs256)
    (paired : key.Paired) : key.PublishedAs key.id key.publicKey.members := by
  unfold SigningKey.Paired at paired
  rw [pair] at paired
  have numbered : ∀ name ∈ ["n", "e"], name ∉ ["kid", "alg", "use"] ++ Jwk.privateNames := by decide
  have labels : ∀ name ∈ Jwk.privateNames, name ∉ ["kid", "alg", "use"] := by decide
  constructor
  · exact paired "kid"
  · exact paired "alg"
  · exact paired "use"
  · intro name number
    have other := numbered name number
    simp only [List.mem_append, List.mem_cons, List.not_mem_nil, or_false, not_or] at other
    obtain ⟨⟨kid, alg, use⟩, shown⟩ := other
    rw [paired, if_neg kid, if_neg alg, if_neg use, if_neg shown]
  · intro name known
    have other := labels name known
    simp only [List.mem_cons, List.not_mem_nil, or_false, not_or] at other
    obtain ⟨kid, alg, use⟩ := other
    rw [paired, if_neg kid, if_neg alg, if_neg use, if_pos known]

/-! ## Publication -/

/-- How the key set is published, by the key that is held before: a secret leaves it empty, and nothing is
loaded for that; a pair that is not held yet is loaded, and is then the only key of the set. Tokens that are
signed with the key held then say the name that is published just when the origin names its keys alike. -/
inductive KeyPublication (env : Environment σ) (origin : KeyOrigin) (held : Option SigningKey) (s : σ) :
    Except KeyError Value → Option SigningKey → σ → Prop
  | empty (secret : origin.publicId? = none) :
      KeyPublication env origin held s (.ok (.object [("keys", .array [])])) held s
  | failed (id : String) (e : KeyError) (after : σ) (pair : origin.publicId? = some id)
      (missing : held = none) (brought : (origin.source.load env).run s = .ok (.error e, after)) :
      KeyPublication env origin held s (.error e) held after
  | single (id : String) (key : SigningKey) (members : Members) (after : σ)
      (pair : origin.publicId? = some id)
      (found : held = some key ∧ after = s ∨
        held = none ∧ (origin.source.load env).run s = .ok (.ok key, after))
      (published : key.PublishedAs id members)
      (tokens : ∀ claims token,
        ((KeyAction.sign env claims).run ⟨origin.source, some key⟩).run after =
          .ok ((.ok token, ⟨origin.source, some key⟩), after) →
        key.Signs claims token ∧
          (token.header.get? "kid" = members.get? "kid" ↔ origin.NamesAlike key)) :
      KeyPublication env origin held s (.ok (.object [("keys", .array [.object members])]))
        (some key) after

theorem KeyOrigin.published_single (env : Environment σ) (origin : KeyOrigin)
    (held : Option SigningKey) (s after : σ) (key : SigningKey) (yields : origin.Yields key)
    (asks : ¬ KeyCall.published.IsIdle origin.source)
    (found : held = some key ∧ after = s ∨
      held = none ∧ (origin.source.load env).run s = .ok (.ok key, after)) :
    KeyPublication env origin held s (.ok (KeyAction.keySet [key.publicKey])) (some key) after := by
  obtain ⟨id, named⟩ := Option.ne_none_iff_exists'.mp fun none => asks (origin.isIdle_iff.mpr none)
  obtain ⟨pair, rfl⟩ := origin.pair_of_yields key id named yields
  have published := key.publishedAs_of_paired pair (origin.yields_paired key yields)
  refine .single key.id key key.publicKey.members after named found published ?_
  intro claims token signed
  rw [KeyAction.sign_held] at signed
  have made := (Prod.mk.inj (Prod.mk.inj (Except.ok.inj signed)).1).1
  have signs := key.signs_of_sign claims token made
  exact ⟨signs, by rw [published.named, origin.named_alike key yields claims token signs]⟩

theorem KeyStep.publication {env : Environment σ} {origin : KeyOrigin} {held : Option SigningKey}
    {s after : σ} {event : KeyEvent} {answer : Except KeyError (List Jwk)}
    (before : ∀ key, held = some key → origin.Yields key)
    (step : KeyStep env origin.source held s event after) (asked : event.call = .published)
    (answered : event.answer = answer.map .published) :
    KeyPublication env origin held s (answer.map KeyAction.keySet) event.held after := by
  have told : ∀ keys, event.answer = .ok (.published keys) → answer = .ok keys := by
    intro keys same
    cases answer with
    | error e => cases answered.symm.trans same
    | ok others =>
        cases answered.symm.trans same
        rfl
  cases step with
  | idle call held s idle =>
      cases asked
      rw [told [] rfl]
      exact .empty (origin.isIdle_iff.mp idle)
  | used call key s asks keeps =>
      cases asked
      rw [told [key.publicKey] rfl]
      exact origin.published_single env _ s s key (before key rfl) asks (.inl ⟨rfl, rfl⟩)
  | loaded call held s key after asks needs brought =>
      cases asked
      rw [told [key.publicKey] rfl]
      exact origin.published_single env held s after key (origin.load_yields env s after key brought) asks
        (.inr ⟨needs.resolve_left nofun, brought⟩)
  | failed call held s e after asks needs brought =>
      cases asked
      have wrong : answer = .error e := by
        cases answer with
        | error other =>
            cases answered
            rfl
        | ok keys => cases answered
      obtain ⟨id, named⟩ := Option.ne_none_iff_exists'.mp fun none => asks (origin.isIdle_iff.mpr none)
      rw [wrong]
      exact .failed id e after named (needs.resolve_left nofun) brought

-- By induction on the course, as each event keeps to the origin.
theorem KeyCourse.last_yields {env : Environment σ} {origin : KeyOrigin} {held last : Option SigningKey}
    {s after : σ} {events : List KeyEvent} (before : ∀ key, held = some key → origin.Yields key)
    (course : KeyCourse env origin.source held s events last after) :
    ∀ key, last = some key → origin.Yields key := by
  induction course with
  | done held s => exact before
  | step held last s between after event events first rest ih =>
      exact ih fun key same => ((first.sound before).held key same).1

theorem KeyOrigin.publishes (env : Environment σ) (origin : KeyOrigin) (calls : List KeyCall) (s : σ) :
    ∃ answers held between,
      ((KeyCall.carryOutAll env calls).run (.ofSource origin.source)).run s =
        .ok ((answers, ⟨origin.source, held⟩), between) ∧
      ∃ answer current after,
        ((KeyAction.published env).run ⟨origin.source, held⟩).run between =
          .ok ((answer, ⟨origin.source, current⟩), after) ∧
        KeyPublication env origin held between (answer.map KeyAction.keySet) current after := by
  obtain ⟨events, held, between, -, course, ran⟩ := carryOutAll_runs env origin.source calls none s
  obtain ⟨event, after, asked, step, published⟩ :=
    KeyCall.published.carryOut_steps env origin.source held between
  refine ⟨_, held, between, ran, ?_⟩
  -- The call tells what was published, and changes nothing more.
  obtain ⟨answer, current, later, found, ended⟩ := (KeyAction.run_bind_ok _ _ _ _ _).mp published
  have same : ((answer.map KeyAnswer.published, current), later) =
      ((event.answer, ⟨origin.source, event.held⟩), after) := Except.ok.inj ended
  simp only [Prod.mk.injEq] at same
  obtain ⟨⟨told, rfl⟩, rfl⟩ := same
  exact ⟨answer, event.held, later, found,
    step.publication (course.last_yields fun key missing => by cases missing) asked told.symm⟩

/-- The keys of a gate come from one of the origins, under the name that the settings give them. After
whatever was asked and answered, the key set is published in one of three ways: empty for a secret, not at
all when no key can be loaded, and else with one key, that of the pair that signs. -/
theorem published_key_follows (env : Environment σ) :
    (∀ settings s keys after, (Gate.keysOf env settings).run s = .ok (.ok keys, after) →
      ∃ origin : KeyOrigin, keys = .ofSource origin.source ∧ origin.publicId? = settings.publicId?) ∧
    ∀ (origin : KeyOrigin) (calls : List KeyCall) (s : σ),
      ∃ answers held between,
        ((KeyCall.carryOutAll env calls).run (.ofSource origin.source)).run s =
          .ok ((answers, ⟨origin.source, held⟩), between) ∧
        ∃ answer current after,
          ((KeyAction.published env).run ⟨origin.source, held⟩).run between =
            .ok ((answer, ⟨origin.source, current⟩), after) ∧
          KeyPublication env origin held between (answer.map KeyAction.keySet) current after := by
  constructor
  · intro settings s keys after made
    exact Gate.keysOf_origin env settings s after keys made
  · exact fun origin calls s => origin.publishes env calls s

/-- Others know the pair of a key service under a name that the tokens signed with it do not say. -/
theorem published_named_apart :
    let source := KeySource.service "http://[::1]" "set"
    let key := SigningKey.ofPrivate ⟨Jwk.sample "RS256"⟩ "set:public"
    ∃ token, ((KeyCall.carryOutAll replaying [.published, .sign []]).run (.ofSource source)).run
        [KeySource.sampleAnswer "RS256"] =
          .ok (([.ok (.published [key.publicKey]), .ok (.token token)], ⟨source, some key⟩), []) ∧
      key.publicKey.members.get? "kid" = some (.string "set:public") ∧
      token.header.get? "kid" = some (.string "private:a") := by
  intro source key
  obtain ⟨token, signed, -⟩ := SigningKey.sign_of_fit _ "set:public" Jwk.sample_fit []
  refine ⟨token, ?_, rfl, (key.signs_of_sign [] token signed).named⟩
  have asks : ¬ KeyCall.published.IsIdle source := Bool.false_ne_true
  have loaded := KeyAction.reload_ok replaying ⟨source, none⟩ key _ [] (KeySource.load_sample "RS256" [])
  rw [← KeyAction.signingKey_missing] at loaded
  have first := KeyCall.carryOut_found replaying .published _ _ _ _ _ asks nofun loaded
  have second := KeyCall.carryOut_found replaying (.sign []) _ _ _ _ _ id nofun
    (KeyAction.signingKey_held replaying source key [])
  rw [Except.bind, (KeyCall.answerWith_sign key [] token).mpr signed] at second
  refine (KeyAction.run_bind_ok _ _ _ _ _).mpr ⟨_, _, _, first, ?_⟩
  refine (KeyAction.run_bind_ok _ _ _ _ _).mpr ⟨[.ok (.token token)], _, _, ?_, rfl⟩
  exact (KeyAction.run_bind_ok _ _ _ _ _).mpr ⟨_, _, _, second, rfl⟩

end AccessGate
