import AccessGate.Proofs.CredentialField
import AccessGate.Proofs.DenialText
import AccessGate.Proofs.Http.OriginForm
import AccessGate.Proofs.Vouching

/-!
Calls that judge themselves. Behind the path of the judge stands a target as it would have been sent to
the proxy, and what is answered there is what the proxy would have done with it.
-/

namespace AccessGate

namespace Judge

open Http (Target)

variable {σ α β : Type}

theorem innerTarget_behind (text : List Char) (outer : Target) (rooted : text.head? = some '/')
    (called : Target.parse (path ++ text) = .ok outer) :
    ∃ target, Target.parse text = .ok target ∧ innerTarget outer = .ok target := by
  obtain ⟨rest, rfl⟩ : ∃ rest, text = '/' :: rest := by
    cases text with
    | nil => cases rooted
    | cons c rest =>
        cases rooted
        exact ⟨rest, rfl⟩
  obtain ⟨small, whole, query, split, rfl⟩ := Target.rooted_of_parse _ outer called
  have plain : ∀ c ∈ path, (c != '?' && c != '#') = true :=
    Text.each_of_all path _ (by decide)
  obtain ⟨inner, same, read⟩ := Target.pathAndQuery_behind path ('/' :: rest) whole query plain split
  subst same
  change Utf8.size (path ++ '/' :: rest) ≤ _ at small
  rw [Utf8.size_append] at small
  have parsed := Target.parse_rooted rest inner query (by omega) read
  refine ⟨.origin inner query, parsed, ?_⟩
  obtain ⟨taken, clean⟩ := Target.pathAndQuery_ok _ _ _ read
  obtain ⟨more, first⟩ : ∃ more, inner = '/' :: more := ⟨_, taken⟩
  have below : innerText (.origin (path ++ inner) query) = inner ++ Target.queryText query := by
    simp only [innerText, Target.path, Target.query?, Text.afterStart?_append, Option.getD_some]
    rw [first]
    rfl
  -- A fragment is gone by now, so the text may be shorter than what was sent.
  have shorter : Utf8.size (inner ++ Target.queryText query) ≤ Utf8.size ('/' :: rest) := by
    obtain ⟨fragment, parts, -⟩ := Target.pathAndQuery_parts _ _ _ read
    have whole := Utf8.size_append (inner ++ Target.queryText query) fragment
    rw [← parts] at whole
    omega
  have again := Target.pathAndQuery_again inner query clean
  unfold innerTarget
  rw [below]
  rw [first] at shorter again ⊢
  rw [List.cons_append] at shorter again ⊢
  rw [Target.parse_rooted _ _ query (by omega) again]

/-! ## Answers and verdicts -/

/-- The value of a field that shows a token. -/
def shown (token : Token) : Http.Octets := Utf8.encode ("Bearer " ++ token.render).toList

theorem credentialField_shown (token : Token) : credentialField? token.render = .ok (shown token) := by
  obtain ⟨value, found⟩ := credentialField_render token
  unfold credentialField? Http.fieldText? Http.fieldValue? at found ⊢
  split at found
  · rename_i same
    split at same
    · cases same
      rfl
    · cases same
  · cases found

theorem answer_allowed (session : Session) (credential : Option Token) :
    (answer (.ok (session, credential))).status = 200 ∧
      (answer (.ok (session, credential))).headers.getAll "authorization" =
        (credential.map shown).toList := by
  cases credential with
  | none => exact ⟨rfl, rfl⟩
  | some token =>
      simp only [answer, credentialField_shown]
      exact ⟨rfl, by rw [Http.Headers.getAll_insert]; rfl⟩

/-- The answer of the judge and the verdict of the proxy on one target. -/
structure Agree (backend : Url) (target : Http.Target) (response : Http.Response)
    (verdict : Proxy.Verdict) : Prop where
  allowed_iff : ∀ placed, Proxy.backendTarget backend target = .ok placed →
    (response.status = 200 ↔ ∃ credential, verdict = .allowed credential)
  denied_iff : ∀ placed, Proxy.backendTarget backend target = .ok placed →
    ∀ denial, response = denial.response ↔ verdict = .denied denial
  untargeted : ∀ missing, Proxy.backendTarget backend target = .error missing →
    (response.status = 200 → verdict = .denied missing) ∧
      ∀ denial, response = denial.response → verdict = .denied denial

-- Two decisions that tell the caller apart in nothing but the credential, each on its own entrance.
theorem agree_of_decisions (backend : Url) (target : Http.Target) (decision other : Decision)
    (same : decision.map Prod.fst = other.map Prod.fst) :
    Agree backend target (answer decision) (Proxy.stamped backend target other).2 := by
  cases decision with
  | error denial =>
      cases other with
      | ok granted => cases same
      | error _ =>
          cases same
          have unlike := Denial.status_ne_ok denial
          constructor
          · intro placed _
            constructor
            · intro fine
              exact absurd fine unlike
            · rintro ⟨credential, allowed⟩
              cases allowed
          · intro placed _ refused
            constructor
            · intro told
              rw [Denial.response_injective _ _ told]
              rfl
            · intro stamped
              cases stamped
              rfl
          · intro missing _
            refine ⟨fun fine => absurd fine unlike, ?_⟩
            intro refused told
            rw [Denial.response_injective _ _ told]
            rfl
  | ok granted =>
      obtain ⟨session, credential⟩ := granted
      cases other with
      | error denial => cases same
      | ok issued =>
          obtain ⟨caller, token⟩ := issued
          have fine := (answer_allowed session credential).1
          have unlike : ∀ denial : Denial, answer (.ok (session, credential)) ≠ denial.response := by
            intro denial told
            rw [told] at fine
            exact Denial.status_ne_ok denial fine
          constructor
          · intro placed targeted
            simp only [Proxy.stamped, targeted]
            exact ⟨fun _ => ⟨_, rfl⟩, fun _ => fine⟩
          · intro placed targeted denial
            simp only [Proxy.stamped, targeted]
            constructor
            · intro told
              exact absurd told (unlike denial)
            · intro denied
              cases denied
          · intro missing untargeted
            simp only [Proxy.stamped, untargeted]
            exact ⟨fun _ => trivial, fun denial told => absurd told (unlike denial)⟩

/-! ## Both entrances -/

/-- A decision that some moment brings about. -/
def Makes (arbiter : Arbiter σ) (request : Except Denial Request) (decision : Decision) : Prop :=
  ∃ keys held s after,
    ((arbiter.decideOn request).run keys).run s = .ok ((decision, held), after)

theorem tells_of_makes (arbiter : Arbiter σ) (request : Except Denial Request) (session : Session)
    (credential : Option Token) (made : Makes arbiter request (.ok (session, credential))) :
    (credential = none ↔ session.isBypassed = true) ∧ ∀ token, credential = some token →
      token.Tells session.subject session.clientId session.isAnonymous session.extra := by
  obtain ⟨keys, held, s, after, ran⟩ := made
  cases request with
  | error denial => cases ran
  | ok request =>
      obtain ⟨evaluation, calls, answered, decides, -⟩ :=
        arbiter.decide_recorded request _ keys held s after ran
      cases outcome : evaluation.outcome with
      | error denial => cases decides.denied denial outcome
      | ok granted =>
          obtain ⟨keys', held', s', after', issued, minted, same⟩ := decides.granted granted outcome
          cases issued with
          | error denial => cases same
          | ok issued =>
              cases same
              exact issue_tells _ _ session keys' held' s' after' credential minted

theorem run_return (action : KeyAction σ α) (f : α → β) (keys : KeyManager) (s : σ) :
    ((do return f (← action) : KeyAction σ β).run keys).run s =
      ((action.run keys).run s).map fun result => ((f result.1.1, result.1.2), result.2) := by
  rw [StateT.run_bind, StateT.run_bind]
  cases (action.run keys).run s with
  | error crash => rfl
  | ok result => rfl

/-- The mirror agrees with the proxy. A call to the path of the judge with a target behind it stands
for that target: the request is the same, both entrances decide about it in the same way, and when
they decide alike they answer alike, but for a backend that has no such target. -/
theorem mirror_agrees (arbiter : Arbiter σ) (backend : Url) (incoming : Http.Incoming)
    (text : List Char) (outer : Target) (rooted : text.head? = some '/')
    (called : Target.parse (path ++ text) = .ok outer) :
    ∃ target, Target.parse text = .ok target ∧
      let mirrored := { incoming with target := outer }
      let proxied := { incoming with target := target }
      let request := Request.ofHttp incoming.method target incoming.headers incoming.peer
      innerRequest mirrored = request ∧
      (∀ keys s,
        ((itself arbiter mirrored).run keys).run s =
          (((arbiter.decideOn request).run keys).run s).map
            (fun made => ((answer made.1.1, made.1.2), made.2)) ∧
        ((Proxy.direct arbiter backend proxied).run keys).run s =
          (((arbiter.decideOn request).run keys).run s).map
            (fun made => ((Proxy.stamped backend target made.1.1, made.1.2), made.2))) ∧
      (∀ decision other : Decision, decision.map Prod.fst = other.map Prod.fst →
        Agree backend target (answer decision) (Proxy.stamped backend target other).2) ∧
      ∀ session credential, Makes arbiter request (.ok (session, credential)) →
        (credential = none ↔ session.isBypassed = true) ∧
        (answer (.ok (session, credential))).headers.getAll "authorization" =
          (credential.map shown).toList ∧
        (∀ placed, Proxy.backendTarget backend target = .ok placed →
          Proxy.stamped backend target (.ok (session, credential)) =
            (placed, .allowed (credential.map Token.render))) ∧
        ∀ token, credential = some token →
          token.Tells session.subject session.clientId session.isAnonymous session.extra := by
  obtain ⟨target, parsed, inner⟩ := innerTarget_behind text outer rooted called
  have derived : innerRequest { incoming with target := outer } =
      Request.ofHttp incoming.method target incoming.headers incoming.peer := by
    simp only [innerRequest, inner]
  refine ⟨target, parsed, derived, ?_, ?_, ?_⟩
  · intro keys s
    constructor
    · rw [itself, derived, verdictOn_eq]
      exact run_return _ answer keys s
    · rw [Proxy.direct_eq]
      exact run_return _ (Proxy.stamped backend target) keys s
  · intro decision other same
    exact agree_of_decisions backend target decision other same
  · intro session credential made
    obtain ⟨uncredited, tells⟩ := tells_of_makes arbiter _ session credential made
    refine ⟨uncredited, (answer_allowed session credential).2, ?_, tells⟩
    intro placed targeted
    simp only [Proxy.stamped, targeted]

theorem mirror_agrees_shown : ∃ target request session token,
    Target.parse "/x".toList = .ok target ∧
    innerRequest shownCall = .ok request ∧
    Request.ofHttp .get target shownCall.headers none = .ok request ∧
    Makes publicArbiter (.ok request) (.ok (session, some token)) ∧
    Agree Proxy.openGate.backend target (answer (.ok (session, some token)))
      (Proxy.stamped Proxy.openGate.backend target (.ok (session, some token))).2 ∧
    token.Tells session.subject session.clientId session.isAnonymous session.extra := by
  obtain ⟨target, parsed, derived, -, agree, credited⟩ := mirror_agrees publicArbiter
    Proxy.openGate.backend shownCall "/x".toList shownCall.target (by decide) rfl
  have read : (innerRequest shownCall).toOption.bind (·.token) = some "t" := by decide +kernel
  cases found : innerRequest shownCall with
  | error denial =>
      rw [found] at read
      cases read
  | ok request =>
      rw [found] at read
      have same : Request.ofHttp .get target shownCall.headers none = .ok request :=
        derived.symm.trans found
      obtain ⟨token, held, -, decided⟩ := publicArbiter_decides request "t" read
      have made : Makes publicArbiter (.ok request)
          (.ok (Session.authenticated "alice" "app", some token)) :=
        ⟨_, held, (), (), decided⟩
      have tells := (credited _ _ (by rw [show Request.ofHttp shownCall.method target
        shownCall.headers shownCall.peer = .ok request from same]; exact made)).2.2.2 token rfl
      exact ⟨target, request, _, token, parsed, rfl, same, made, agree _ _ rfl, tells⟩

end Judge

end AccessGate
