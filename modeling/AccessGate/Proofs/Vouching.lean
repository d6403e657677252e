import AccessGate.Proofs.Entrances
import AccessGate.Proofs.OpenGate
import AccessGate.Proofs.PolicyCalls
import AccessGate.Proofs.Recorded

/-!
Who vouches for the identity in a credential. A credential that names a caller rests on one answer of
the policy service, given to the token of that very request; any other one names nobody.
-/

namespace AccessGate

open Json

variable {σ τ : Type}

/-! ## Sessions -/

/-- Why a rule lets a request pass, with the calls that were made and the session that comes of it. -/
inductive Vouched (rule : Rule) (request : Request) : List PolicyCall → Session → Prop where
  | bypassed (mode : rule.mode = .bypass) : Vouched rule request [] .bypassed
  | ignored (mode : rule.mode = .anonymous) : Vouched rule request [] .anonymous
  | untold (mode : rule.mode = .publicAccess) (silent : request.token = none) :
      Vouched rule request [] .anonymous
  | unhelped (mode : rule.mode = .publicAccess) (token : String)
      (shown : request.token = some token) (answer : Except PolicyError Introspection)
      (useless : ∀ found, answer = .ok found → found.active = false) :
      Vouched rule request [.introspected token answer] .anonymous
  | introspected (mode : rule.mode = .publicAccess) (token : String)
      (shown : request.token = some token) (answer : Introspection) (active : answer.active = true) :
      Vouched rule request [.introspected token (.ok answer)]
        { Session.authenticated answer.subject answer.clientId with extra := answer.extra }
  | authorized (mode : rule.mode = .policy) (token : String) (shown : request.token = some token)
      (query : AccessQuery) (carried : query.token = token) (answer : Authorization)
      (allowed : answer.allowed = true) :
      Vouched rule request [.authorized query (.ok answer)]
        { Session.authenticated answer.subject answer.clientId with extra := answer.extra }

theorem vouched_introspected (rule : Rule) (request : Request) (token : String)
    (mode : rule.mode = .publicAccess) (shown : request.token = some token)
    (answer : Except PolicyError Introspection) (session : Session)
    (granted : (Evaluation.ofIntrospection token answer).outcome = .ok session) :
    Vouched rule request [.introspected token answer] session := by
  cases answer with
  | error e =>
      cases granted
      exact .unhelped mode token shown _ (fun _ same => by cases same)
  | ok found =>
      cases active : found.active with
      | true =>
          simp only [Evaluation.ofIntrospection, Evaluation.identified, active, if_true] at granted
          cases granted
          exact .introspected mode token shown found active
      | false =>
          simp only [Evaluation.ofIntrospection, Evaluation.identified, active,
            Bool.false_eq_true, if_false] at granted
          cases granted
          refine .unhelped mode token shown _ ?_
          intro other same
          cases same
          exact active

theorem vouched_authorized (rule : Rule) (request : Request) (token : String) (query : AccessQuery)
    (mode : rule.mode = .policy) (shown : request.token = some token) (carried : query.token = token)
    (answer : Except PolicyError Authorization) (session : Session)
    (granted : Evaluation.consented answer = .ok session) :
    Vouched rule request [.authorized query answer] session := by
  cases answer with
  | error e =>
      unfold Evaluation.consented at granted
      split at granted
      · rename_i same
        cases same
      · cases granted
      · cases granted
  | ok found =>
      cases allowed : found.allowed with
      | true =>
          simp only [Evaluation.consented, allowed, if_true] at granted
          cases granted
          exact .authorized mode token shown query carried found allowed
      | false =>
          simp only [Evaluation.consented, allowed, Bool.false_eq_true, if_false] at granted
          cases granted

-- The mode and the token choose the plan; what is asked and answered then follows from the plan.
theorem vouched_of_answered (rule : Rule) (request : Request) (evaluation : Evaluation)
    (calls : List PolicyCall) (session : Session)
    (answered : Answered (Evaluation.planFor rule request) evaluation calls)
    (granted : evaluation.outcome = .ok session) : Vouched rule request calls session := by
  cases mode : rule.mode with
  | bypass =>
      simp only [Evaluation.planFor, mode] at answered
      cases answered
      cases granted
      exact .bypassed mode
  | anonymous =>
      simp only [Evaluation.planFor, mode] at answered
      cases answered
      cases granted
      exact .ignored mode
  | publicAccess =>
      cases shown : request.token with
      | none =>
          simp only [Evaluation.planFor, mode, shown] at answered
          cases answered
          cases granted
          exact .untold mode shown
      | some token =>
          simp only [Evaluation.planFor, mode, shown] at answered
          cases answered with
          | introspected _ answer =>
              exact vouched_introspected rule request token mode shown answer session granted
  | policy =>
      cases shown : request.token with
      | none =>
          simp only [Evaluation.planFor, mode, shown] at answered
          cases answered
          cases granted
      | some token =>
          simp only [Evaluation.planFor, mode, shown] at answered
          cases answered with
          | authorized _ answer =>
              exact vouched_authorized rule request token _ mode shown rfl answer session granted

theorem vouched_of_plan (rules : RuleSet) (request : Request) (evaluation : Evaluation)
    (calls : List PolicyCall) (session : Session)
    (answered : Answered (Evaluation.plan rules request) evaluation calls)
    (granted : evaluation.outcome = .ok session) :
    ∃ rule, rules.matching request.method request.matchUrl = [rule] ∧
      Vouched rule request calls session := by
  by_cases single : ∃ rule, rules.matching request.method request.matchUrl = [rule]
  · obtain ⟨rule, found⟩ := single
    rw [plan_single rules request rule found] at answered
    exact ⟨rule, found, vouched_of_answered rule request evaluation calls session answered granted⟩
  · rw [plan_undecided rules request fun rule found => single ⟨rule, found⟩] at answered
    cases answered
    cases granted

/-! ## Credentials -/

/-- The claims of a token tell of a caller. -/
structure Token.Tells (token : Token) (subject clientId : String) (isAnonymous : Bool)
    (extra : Members) : Prop where
  sub : token.claims.get? "sub" = some (.string subject)
  aud : token.claims.get? "aud" = if clientId = "" then none else some (.string clientId)
  anon : token.claims.get? "anon" = some (.bool isAnonymous)
  ext : token.claims.get? "ext" = some (.object extra)

theorem toMembers_tells (claims : Claims) (subject clientId : String) (token : Token)
    (signed : token.claims = claims.toMembers) (named : claims.subject = subject)
    (meant : claims.audience = if clientId = "" then none else some clientId) :
    token.Tells subject clientId claims.isAnonymous claims.extra := by
  subst named
  by_cases nobody : clientId = ""
  · rw [if_pos nobody] at meant
    constructor
    all_goals simp [signed, Claims.toMembers, meant, nobody, Members.get?]
  · rw [if_neg nobody] at meant
    constructor
    all_goals simp [signed, Claims.toMembers, meant, nobody, Members.get?]

theorem sign_claims (key : SigningKey) (claims : Members) (token : Token)
    (signed : key.sign claims = .ok token) : token.claims = claims := by
  unfold SigningKey.sign at signed
  cases fit : key.privateKey.signer key.algorithm with
  | error e =>
      rw [fit] at signed
      cases signed
  | ok signer =>
      rw [fit] at signed
      cases signed
      rfl

theorem claims_run (env : Environment σ) (session : Session) (issuer : String) (lifespan : Duration)
    (claims : Claims) (s after : σ)
    (ran : (session.claims env issuer lifespan).run s = .ok (claims, after)) :
    claims.subject = session.subject ∧ claims.isAnonymous = session.isAnonymous ∧
      claims.extra = session.extra ∧
      claims.audience = if session.clientId = "" then none else some session.clientId := by
  obtain ⟨now, between, -, rest⟩ := (Action.run_bind_ok _ _ s _).mp ran
  obtain ⟨octets, later, -, made⟩ := (Action.run_bind_ok _ _ between _).mp rest
  change Except.map _ (Except.map _ (now.after lifespan)) = _ at made
  cases held : now.after lifespan with
  | error crash =>
      rw [held] at made
      cases made
  | ok expiry =>
      rw [held] at made
      cases made
      exact ⟨rfl, rfl, rfl, rfl⟩

/-- Every session but a bypassed one gets a credential, which tells of the session. -/
theorem issue_tells (env : Environment σ) (issuer : Issuer) (session : Session)
    (keys held : KeyManager) (s after : σ) (credential : Option Token)
    (ran : ((issuer.issue env session).run keys).run s = .ok ((.ok credential, held), after)) :
    (credential = none ↔ session.isBypassed = true) ∧ ∀ token, credential = some token →
      token.Tells session.subject session.clientId session.isAnonymous session.extra := by
  unfold Issuer.issue at ran
  cases bypassed : session.isBypassed with
  | true =>
      rw [bypassed] at ran
      cases ran
      exact ⟨by simp, fun token none_ => by cases none_⟩
  | false =>
      simp only [bypassed, Bool.false_eq_true, if_false] at ran
      obtain ⟨claims, same, between, lifted, rest⟩ := (KeyAction.run_bind_ok _ _ keys s _).mp ran
      have made := ((KeyAction.run_lift_iff _ keys same s between claims).mp lifted).1
      obtain ⟨subject, anonymous, extra, audience⟩ := claims_run env session _ _ claims s between made
      obtain ⟨signed, kept, later, signing, finished⟩ :=
        (KeyAction.run_bind_ok _ _ same between _).mp rest
      cases signed with
      | error e => cases finished
      | ok token =>
          cases finished
          refine ⟨by simp, ?_⟩
          intro minted same
          cases same
          obtain ⟨key, again, last, -, outcome⟩ := (KeyAction.run_bind_ok _ _ _ between _).mp signing
          cases key with
          | error e => cases outcome
          | ok key =>
              have equal : key.sign claims.toMembers = .ok token := by
                cases whole : key.sign claims.toMembers with
                | error e =>
                    simp only [Except.bind, whole] at outcome
                    cases outcome
                | ok other =>
                    simp only [Except.bind, whole] at outcome
                    cases outcome
                    rfl
              rw [← anonymous, ← extra]
              exact toMembers_tells claims _ _ token (sign_claims key _ token equal) subject audience

/-! ## Every entrance -/

theorem Proxy.roundTrip_beside (env : Environment σ) (target : Http.Target)
    (incoming : Http.Incoming) (verdict : Option Verdict) :
    roundTrip (env.beside : Environment (σ × τ)) target incoming verdict =
      (roundTrip env target incoming verdict).aside := by
  have forwarded : ∀ credential,
      forward (env.beside : Environment (σ × τ)) target incoming credential =
        (forward env target incoming credential).aside := by
    intro credential
    unfold forward
    cases outgoing target incoming credential with
    | error denial => rfl
    | ok request =>
        refine Action.aside_steps _ _ _ _ (Http.sendOnce_beside env request) ?_
        intro answer
        cases answer with
        | error e => rfl
        | ok response => rfl
  rcases verdict with _ | ⟨credential⟩ | ⟨denial⟩
  · rfl
  · refine Action.aside_steps _ _ _ _ (forwarded credential) ?_
    intro answer
    cases answer with
    | error denial => rfl
    | ok response => rfl
  · rfl

theorem Entrance.conclude_beside (env : Environment σ) (backend : Url) (incoming : Http.Incoming)
    (decision : Decision) (entrance : Entrance) :
    entrance.conclude (env.beside : Environment (σ × τ)) backend incoming decision =
      (entrance.conclude env backend incoming decision).aside := by
  cases entrance with
  | proxy => exact Proxy.roundTrip_beside env _ incoming _
  | described => rfl
  | mirrored => rfl

/-- One call, with the token of the request itself, was answered with a consent to this caller. -/
inductive Consent (rule : Rule) (request : Request) (calls : List PolicyCall) :
    String → String → Members → Prop where
  | active (mode : rule.mode = .publicAccess) (token : String) (shown : request.token = some token)
      (answer : Introspection) (only : calls = [.introspected token (.ok answer)])
      (active : answer.active = true) :
      Consent rule request calls answer.subject answer.clientId answer.extra
  | allowed (mode : rule.mode = .policy) (token : String) (shown : request.token = some token)
      (query : AccessQuery) (carried : query.token = token) (answer : Authorization)
      (only : calls = [.authorized query (.ok answer)]) (allowed : answer.allowed = true) :
      Consent rule request calls answer.subject answer.clientId answer.extra

/-- What a credential says of its holder, and what that rests on. -/
structure Token.Rests (token : Token) (rule : Rule) (request : Request) (calls : List PolicyCall) :
    Prop where
  named : token.claims.get? "anon" = some (.bool false) → ∃ subject clientId extra,
    Consent rule request calls subject clientId extra ∧ token.Tells subject clientId false extra
  unnamed : token.claims.get? "anon" = some (.bool true) → token.Tells "" "" true []
  either : token.claims.get? "anon" = some (.bool false) ∨
    token.claims.get? "anon" = some (.bool true)

theorem rests_of_vouched (rule : Rule) (request : Request) (calls : List PolicyCall)
    (session : Session) (token : Token) (vouched : Vouched rule request calls session)
    (tells : token.Tells session.subject session.clientId session.isAnonymous session.extra) :
    token.Rests rule request calls := by
  have anonymous : ∀ told : token.Tells "" "" true [], token.Rests rule request calls := by
    intro told
    refine ⟨?_, fun _ => told, .inr told.anon⟩
    intro named
    cases told.anon.symm.trans named
  have named : ∀ subject clientId extra, Consent rule request calls subject clientId extra →
      token.Tells subject clientId false extra → token.Rests rule request calls := by
    intro subject clientId extra consent told
    refine ⟨fun _ => ⟨subject, clientId, extra, consent, told⟩, ?_, .inl told.anon⟩
    intro unnamed
    cases told.anon.symm.trans unnamed
  cases vouched with
  | bypassed mode => exact anonymous tells
  | ignored mode => exact anonymous tells
  | untold mode silent => exact anonymous tells
  | unhelped mode shown answer useless => exact anonymous tells
  | introspected mode shown found answer active =>
      exact named _ _ _ (.active mode shown found answer rfl active) tells
  | authorized mode shown found query carried answer allowed =>
      exact named _ _ _ (.allowed mode shown found query carried answer rfl allowed) tells

theorem bypassed_iff_mode (rule : Rule) (request : Request) (calls : List PolicyCall)
    (session : Session) (vouched : Vouched rule request calls session) :
    session.isBypassed = true ↔ rule.mode = .bypass := by
  cases vouched with
  | bypassed mode => simp [mode, Session.bypassed]
  | ignored mode => simp [mode, Session.anonymous]
  | untold mode silent => simp [mode, Session.anonymous]
  | unhelped mode shown answer useless => simp [mode, Session.anonymous]
  | introspected mode shown found answer active => simp [mode, Session.authenticated]
  | authorized mode shown found query carried answer allowed => simp [mode, Session.authenticated]

theorem decision_rests (arbiter : Arbiter σ) (request : Request) (evaluation : Evaluation)
    (calls : List PolicyCall) (session : Session) (credential : Option Token)
    (answered : Answered (Evaluation.plan arbiter.rules request) evaluation calls)
    (decides : arbiter.Decides request evaluation (.ok (session, credential))) :
    ∃ rule, arbiter.rules.matching request.method request.matchUrl = [rule] ∧
      (credential = none ↔ rule.mode = .bypass) ∧
      ∀ token, credential = some token → token.Rests rule request calls := by
  cases outcome : evaluation.outcome with
  | error denial => cases decides.denied denial outcome
  | ok granted =>
      obtain ⟨keys, held, s, after, issued, ran, same⟩ := decides.granted granted outcome
      cases issued with
      | error denial => cases same
      | ok issued =>
          cases same
          obtain ⟨rule, single, vouched⟩ :=
            vouched_of_plan arbiter.rules request evaluation calls session answered outcome
          obtain ⟨uncredited, tells⟩ := issue_tells _ _ session keys held s after credential ran
          refine ⟨rule, single, ?_, ?_⟩
          · rw [uncredited, bypassed_iff_mode rule request calls session vouched]
          · intro token minted
            exact rests_of_vouched rule request calls session token vouched (tells token minted)

/-- Identity is vouched for, whatever state the gate is in. At every entrance a request is decided
about at most once, a request that is let through gets no credential just under a bypass rule, and a
credential names a caller only when the one call that was made with the request's own token was
answered with a consent to that caller. -/
theorem credential_vouched (arbiter : Arbiter σ) (backend : Url) (incoming : Http.Incoming)
    (entrance : Entrance) (keys held : KeyManager) (s after : σ) (response : Http.Response)
    (log : List PolicyCall)
    (served : ((entrance.serve arbiter backend incoming).run keys).run s =
      .ok ((response, held), after)) :
    ∃ calls,
      ((entrance.serve arbiter.recorded backend incoming).run keys).run (s, log) =
        .ok ((response, held), (after, log ++ calls)) ∧
      match entrance.request incoming with
      | .error refusal => response = refusal ∧ calls = [] ∧ held = keys ∧ after = s
      | .ok request => ∃ decision between,
          ((arbiter.decide request).run keys).run s = .ok ((decision, held), between) ∧
          (entrance.conclude arbiter.env backend incoming decision).run between =
            .ok (response, after) ∧
          ∀ session credential, decision = .ok (session, credential) →
            ∃ rule, arbiter.rules.matching request.method request.matchUrl = [rule] ∧
              (credential = none ↔ rule.mode = .bypass) ∧
              ∀ token, credential = some token → token.Rests rule request calls := by
  rw [Entrance.serve_eq] at served ⊢
  cases found : entrance.request incoming with
  | error refusal =>
      simp only [found] at served ⊢
      cases served
      exact ⟨[], by rw [List.append_nil]; rfl, rfl, rfl, rfl, rfl⟩
  | ok request =>
      simp only [found] at served ⊢
      obtain ⟨decision, kept, between, decided, concluded⟩ :=
        (KeyAction.run_bind_ok _ _ keys s _).mp served
      obtain ⟨ended, rfl⟩ := (KeyAction.run_lift_iff _ kept held between after response).mp concluded
      obtain ⟨evaluation, calls, answered, decides, recorded⟩ :=
        arbiter.decide_recorded request decision keys held s between decided
      refine ⟨calls, ?_, decision, between, decided, ended, ?_⟩
      · refine (KeyAction.run_bind_ok _ _ keys (s, log) _).mpr ⟨_, _, _, recorded log, ?_⟩
        apply KeyAction.run_lift_ok
        have beside := Action.aside_run _ between after (log ++ calls) response ended
        rwa [← Entrance.conclude_beside] at beside
      · intro session credential same
        subst same
        exact decision_rests arbiter request evaluation calls session credential answered decides

/-! ## A token that is vouched for -/

/-- A service that knows the holder of every token. -/
def knowing : PolicyClient Unit where
  introspect _ := pure (.ok ⟨true, "alice", "app", "", []⟩)
  authorize _ := pure (.error (.badStatus 500))

/-- A rule that lets every request pass and tells who sent it. -/
def publicRule : Rule := { Proxy.openRule with mode := .publicAccess }

def publicArbiter : Arbiter Unit := ⟨Proxy.silent, knowing, [publicRule], ⟨"gate", 60⟩⟩

def agreedKey : SigningKey := .ofSecret (List.replicate 32 0) "id"

/-- A call that shows a token. -/
def shownCall : Http.Incoming :=
  ⟨.get, .origin "/judge/x".toList none,
    [("host", Utf8.encode "[::1]".toList), ("authorization", Utf8.encode "Bearer t".toList)], none,
    []⟩

theorem agreedKey_signs (claims : Json.Members) : ∃ token, agreedKey.sign claims = .ok token := by
  have fit : (agreedKey.privateKey.signer agreedKey.algorithm).toOption.isSome = true := by
    decide +kernel
  unfold SigningKey.sign
  cases found : agreedKey.privateKey.signer agreedKey.algorithm with
  | error e =>
      rw [found] at fit
      cases fit
  | ok signer => exact ⟨_, rfl⟩

theorem publicArbiter_credential :
    ∃ credential held, credential.claims.get? "anon" = some (.bool false) ∧
      ∀ (request : Request) (token : String), request.token = some token →
        ((publicArbiter.decide request).run (.ofSource (.agreed agreedKey))).run () =
          .ok ((.ok (Session.authenticated "alice" "app", some credential), held), ()) := by
  let session := Session.authenticated "alice" "app"
  let claims : Claims :=
    ⟨"gate", "alice", some "app", ⟨0, 0⟩, ⟨60, 0⟩, uuidText (List.replicate 16 0), false, []⟩
  obtain ⟨credential, signed⟩ := agreedKey_signs claims.toMembers
  have issued : ((publicArbiter.issuer.issue publicArbiter.env session).run
      (.ofSource (.agreed agreedKey))).run () =
        .ok ((.ok (some credential), ⟨.agreed agreedKey, some agreedKey⟩), ()) := by
    refine (KeyAction.run_bind_ok _ _ _ () _).mpr ⟨_, _, (), rfl, ?_⟩
    refine (KeyAction.run_bind_ok _ _ _ () _).mpr ⟨.ok credential, _, (), ?_, rfl⟩
    refine (KeyAction.run_bind_ok _ _ _ () _).mpr ⟨.ok agreedKey, _, (), rfl, ?_⟩
    change Except.ok ((agreedKey.sign _, _), ()) = _
    exact congrArg (fun signed => Except.ok ((signed, _), ())) signed
  have named : credential.claims.get? "anon" = some (.bool false) := by
    rw [sign_claims agreedKey _ credential signed]
    rfl
  refine ⟨credential, ⟨.agreed agreedKey, some agreedKey⟩, named, fun request token shown => ?_⟩
  let a : Proxy.Approval Unit :=
    ⟨request, publicRule, .ofIntrospection token (.ok ⟨true, "alice", "app", "", []⟩), session, ()⟩
  have single : publicArbiter.rules.matching request.method request.matchUrl = [publicRule] := by
    have matching : publicRule.isMatching request.method request.matchUrl = true :=
      Proxy.openRule_matches request.method request.matchUrl
    simp [RuleSet.matching, publicArbiter, matching]
  have planned := plan_single _ request publicRule single
  have evaluated : (evaluate publicArbiter.policy publicArbiter.rules request).run () =
      .ok (a.evaluation, ()) := by
    unfold evaluate
    rw [planned]
    simp only [Evaluation.planFor, publicRule, shown]
    rfl
  exact Proxy.decide_issued publicArbiter a _ _ () () _ evaluated rfl issued

theorem publicArbiter_decides (request : Request) (token : String)
    (shown : request.token = some token) :
    ∃ credential held, credential.claims.get? "anon" = some (.bool false) ∧
      ((publicArbiter.decide request).run (.ofSource (.agreed agreedKey))).run () =
        .ok ((.ok (Session.authenticated "alice" "app", some credential), held), ()) := by
  obtain ⟨credential, held, named, decides⟩ := publicArbiter_credential
  exact ⟨credential, held, named, decides request token shown⟩

theorem credential_vouched_alice : ∃ request response held log token session rule,
    ((Entrance.mirrored.serve publicArbiter Proxy.openGate.backend shownCall).run
      (.ofSource (.agreed agreedKey))).run () = .ok ((response, held), ()) ∧
    ((Entrance.mirrored.serve publicArbiter.recorded Proxy.openGate.backend shownCall).run
      (.ofSource (.agreed agreedKey))).run ((), []) = .ok ((response, held), ((), log)) ∧
    Judge.innerRequest shownCall = .ok request ∧ request.token = some "t" ∧
    response = Judge.answer (.ok (session, some token)) ∧
    token.claims.get? "anon" = some (.bool false) ∧ token.Rests rule request log := by
  have read : (Judge.innerRequest shownCall).toOption.bind (·.token) = some "t" := by
    decide +kernel
  cases found : Judge.innerRequest shownCall with
  | error denial =>
      rw [found] at read
      cases read
  | ok request =>
      rw [found] at read
      have entered : Entrance.mirrored.request shownCall = .ok request := by
        simp only [Entrance.request, found]
        rfl
      obtain ⟨token, held, named, decided⟩ := publicArbiter_decides request "t" read
      have served : ((Entrance.mirrored.serve publicArbiter Proxy.openGate.backend shownCall).run
          (.ofSource (.agreed agreedKey))).run () =
            .ok ((Judge.answer (.ok (Session.authenticated "alice" "app", some token)), held), ()) := by
        rw [Entrance.serve_eq, entered]
        exact (KeyAction.run_bind_ok _ _ _ () _).mpr ⟨_, _, _, decided, rfl⟩
      have vouched := credential_vouched _ _ _ _ _ _ _ _ _ [] served
      rw [entered] at vouched
      obtain ⟨calls, recorded, decision, between, again, -, rests⟩ := vouched
      cases decided.symm.trans again
      obtain ⟨rule, -, -, sound⟩ := rests _ _ rfl
      exact ⟨request, _, held, calls, token, _, rule, served, recorded, rfl, read, rfl, named,
        sound token rfl⟩

end AccessGate
