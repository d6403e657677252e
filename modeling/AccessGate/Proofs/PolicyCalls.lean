import AccessGate.Evaluation
import AccessGate.Proofs.Actions

/-!
What a decision asks the policy service, and what each possible reply makes of it. A watched client
answers as the client itself does and keeps a list of what it was asked.
-/

namespace AccessGate

open PolicyClient (Endpoints)

variable {σ : Type}

/-- The same client, with a log of its calls. -/
def PolicyClient.watched (client : PolicyClient σ) : PolicyClient (σ × List Question) where
  introspect token := (client.introspect token).noted (.introspect token)
  authorize query := (client.authorize query).noted (.authorize query)

/-! ## Replies -/

/-- The request that a question becomes, if there is an endpoint for it. -/
def Question.outgoing? (endpoints : Endpoints) :
    Question → Option (Except Http.SendError Http.Outgoing)
  | .introspect token => endpoints.introspectionUrl.map fun url => do
      let request ← Http.Outgoing.ofText .post url
      PolicyClient.authenticated endpoints (request.withForm (PolicyClient.tokenForm token))
  | .authorize query => endpoints.authorizationUrl.map fun url => do
      let request ← Http.Outgoing.ofText .post url
      PolicyClient.authenticated endpoints (request.withJson query.toJson)

/-- The last response to a request; there is none without a request, for one that cannot be sent,
and when the connection is lost. -/
def lastResponse (env : Environment σ) (request : Option (Except Http.SendError Http.Outgoing)) :
    Action σ (Option Http.Response) :=
  match request with
  | none => pure none
  | some request => do return (← Http.fetch env request).toOption

/-- What a question gets in the end. -/
def Question.reply (env : Environment σ) (endpoints : Endpoints) (question : Question) :
    Action σ (Option Http.Response) :=
  lastResponse env (question.outgoing? endpoints)

/-- A reply with status 200 and a body that holds an answer of the kind asked for. -/
def Delivers (decode : Json.Node → Except Json.ReadError α) (reply : Option Http.Response)
    (answer : α) : Prop :=
  ∃ response, reply = some response ∧ response.status = 200 ∧
    response.decode? decode = some answer

theorem delivers_unique (decode : Json.Node → Except Json.ReadError α)
    (reply : Option Http.Response) (first second : α) (one : Delivers decode reply first)
    (other : Delivers decode reply second) : first = second := by
  obtain ⟨response, found, -, read⟩ := one
  obtain ⟨again, foundAgain, -, readAgain⟩ := other
  rw [found] at foundAgain
  cases foundAgain
  rw [read] at readAgain
  exact Option.some.inj readAgain

/-- How an answer reflects the reply that it was made of. -/
structure Reflects (decode : Json.Node → Except Json.ReadError α) (reply : Option Http.Response)
    (answer : Except PolicyError α) : Prop where
  ok_iff : ∀ value, answer = .ok value ↔ Delivers decode reply value
  unauthorized_iff : answer = .error (.badStatus 401) ↔ reply.map (·.status) = some 401

theorem reflects_none (decode : Json.Node → Except Json.ReadError α) (e : PolicyError)
    (other : ∀ status, e ≠ .badStatus status) : Reflects decode none (.error e) where
  ok_iff value := by simp [Delivers]
  unauthorized_iff := by simp [other 401]

theorem reflects_decodeAnswer (decode : Json.Node → Except Json.ReadError α)
    (response : Http.Response) :
    Reflects decode (some response) (PolicyClient.decodeAnswer decode response) := by
  unfold PolicyClient.decodeAnswer
  by_cases fine : response.status = 200
  · cases read : response.decode? decode with
    | none =>
        constructor
        · simp [Delivers, fine, read]
        · simp [fine]
    | some answer =>
        constructor
        · simp [Delivers, fine, read]
        · simp [fine]
  · constructor
    · simp [Delivers, fine]
    · simp [fine]

theorem ask_reflects (env : Environment σ) (decode : Json.Node → Except Json.ReadError α)
    (request : Except Http.SendError Http.Outgoing) (s : σ) :
    ∃ found after answer, (Http.fetch env request).run s = .ok (found, after) ∧
      (PolicyClient.ask env decode request).run s = .ok (answer, after) ∧
      Reflects decode found.toOption answer := by
  obtain ⟨⟨found, after⟩, fetched⟩ := Http.fetch_ends env request s
  cases found with
  | error e =>
      refine ⟨.error e, after, .error (.unreachable e.message), fetched, ?_, ?_⟩
      · exact (Action.run_bind_ok _ _ s _).mpr ⟨.error e, after, fetched, rfl⟩
      · exact reflects_none decode _ (fun _ same => by cases same)
  | ok response =>
      refine ⟨.ok response, after, PolicyClient.decodeAnswer decode response, fetched, ?_, ?_⟩
      · exact (Action.run_bind_ok _ _ s _).mpr ⟨.ok response, after, fetched, rfl⟩
      · exact reflects_decodeAnswer decode response

-- Both calls of the service have this form; they differ in the endpoint and in the request.
theorem endpoint_reflects (env : Environment σ) (decode : Json.Node → Except Json.ReadError α)
    (endpoint : Option String) (setting : String)
    (build : String → Except Http.SendError Http.Outgoing) (s : σ) :
    ∃ reply after answer, (lastResponse env (endpoint.map build)).run s = .ok (reply, after) ∧
      (match endpoint with
        | none => pure (.error (.notConfigured setting))
        | some url => PolicyClient.ask env decode (build url) :
          Action σ (Except PolicyError α)).run s = .ok (answer, after) ∧
      Reflects decode reply answer := by
  cases endpoint with
  | none =>
      exact ⟨none, s, .error (.notConfigured setting), rfl, rfl,
        reflects_none decode _ (fun _ same => by cases same)⟩
  | some url =>
      obtain ⟨found, after, answer, fetched, answered, reflects⟩ :=
        ask_reflects env decode (build url) s
      refine ⟨found.toOption, after, answer, ?_, answered, reflects⟩
      exact (Action.run_bind_ok _ _ s _).mpr ⟨found, after, fetched, rfl⟩

theorem introspect_reflects (env : Environment σ) (endpoints : Endpoints) (token : String) (s : σ) :
    ∃ reply after answer,
      ((Question.introspect token).reply env endpoints).run s = .ok (reply, after) ∧
      ((PolicyClient.overHttp env endpoints).introspect token).run s = .ok (answer, after) ∧
      Reflects Introspection.decode reply answer :=
  endpoint_reflects env Introspection.decode endpoints.introspectionUrl _ _ s

theorem authorize_reflects (env : Environment σ) (endpoints : Endpoints) (query : AccessQuery)
    (s : σ) :
    ∃ reply after answer,
      ((Question.authorize query).reply env endpoints).run s = .ok (reply, after) ∧
      ((PolicyClient.overHttp env endpoints).authorize query).run s = .ok (answer, after) ∧
      Reflects Authorization.decode reply answer :=
  endpoint_reflects env Authorization.decode endpoints.authorizationUrl _ _ s

/-! ## Outcomes -/

theorem identified_isSome_iff (decode : Json.Node → Except Json.ReadError Introspection)
    (reply : Option Http.Response) (answer : Except PolicyError Introspection)
    (reflects : Reflects decode reply answer) :
    (Evaluation.identified answer).isSome = true ↔
      ∃ found, Delivers decode reply found ∧ found.active = true := by
  cases answer with
  | error e =>
      constructor
      · intro identified
        cases identified
      · rintro ⟨found, delivered, -⟩
        have same := (reflects.ok_iff found).mpr delivered
        cases same
  | ok value =>
      have delivered := (reflects.ok_iff value).mp rfl
      constructor
      · intro identified
        refine ⟨value, delivered, ?_⟩
        cases active : value.active with
        | true => rfl
        | false => simp [Evaluation.identified, active] at identified
      · rintro ⟨found, other, active⟩
        have same := delivers_unique decode reply value found delivered other
        subst same
        simp [Evaluation.identified, active]

/-- How the outcome under a policy rule depends on the reply. -/
structure Gated (reply : Option Http.Response) (outcome : Except Denial Session) : Prop where
  granted_iff : (∃ session, outcome = .ok session) ↔
    ∃ answer, Delivers Authorization.decode reply answer ∧ answer.allowed = true
  forbidden_iff : outcome = .error .forbidden ↔
    ∃ answer, Delivers Authorization.decode reply answer ∧ answer.allowed = false
  unauthorized_iff : outcome = .error .invalidToken ↔ reply.map (·.status) = some 401
  failure_iff : (∃ reason, outcome = .error (.policyFailure reason)) ↔
    (∀ answer, ¬ Delivers Authorization.decode reply answer) ∧
      reply.map (·.status) ≠ some 401

theorem gated_ok (reply : Option Http.Response) (answer : Authorization)
    (delivered : Delivers Authorization.decode reply answer) :
    Gated reply (Evaluation.consented (.ok answer)) := by
  have only : ∀ other, Delivers Authorization.decode reply other → other = answer :=
    fun other more => delivers_unique Authorization.decode reply other answer more delivered
  have fine : reply.map (·.status) = some 200 := by
    obtain ⟨response, found, status, -⟩ := delivered
    simp [found, status]
  cases allowed : answer.allowed with
  | true =>
      constructor
      · simp only [Evaluation.consented, allowed, ↓reduceIte]
        exact ⟨fun _ => ⟨answer, delivered, allowed⟩, fun _ => ⟨_, rfl⟩⟩
      · simp only [Evaluation.consented, allowed, ↓reduceIte, reduceCtorEq, false_iff]
        rintro ⟨other, more, refused⟩
        rw [only other more, allowed] at refused
        cases refused
      · simp [Evaluation.consented, allowed, fine]
      · simp only [Evaluation.consented, allowed, ↓reduceIte, reduceCtorEq, exists_false, false_iff]
        exact fun silent => silent.1 answer delivered
  | false =>
      constructor
      · simp only [Evaluation.consented, allowed, Bool.false_eq_true, ↓reduceIte, reduceCtorEq,
          exists_false, false_iff]
        rintro ⟨other, more, granted⟩
        rw [only other more, allowed] at granted
        cases granted
      · simp only [Evaluation.consented, allowed, Bool.false_eq_true, ↓reduceIte, true_iff]
        exact ⟨answer, delivered, allowed⟩
      · simp [Evaluation.consented, allowed, fine]
      · simp only [Evaluation.consented, allowed, Bool.false_eq_true, ↓reduceIte,
          Except.error.injEq, reduceCtorEq, exists_false, false_iff]
        exact fun silent => silent.1 answer delivered

-- Every failure but the one status is told as a failure of the service.
theorem gated_error (reply : Option Http.Response) (e : PolicyError)
    (reflects : Reflects Authorization.decode reply (.error e)) :
    Gated reply (Evaluation.consented (.error e)) := by
  have silent : ∀ answer, ¬ Delivers Authorization.decode reply answer := by
    intro answer delivered
    have same := (reflects.ok_iff answer).mpr delivered
    cases same
  by_cases unauthorized : e = .badStatus 401
  · subst unauthorized
    have status := reflects.unauthorized_iff.mp rfl
    constructor <;> simp [Evaluation.consented, silent, status]
  · have status : reply.map (·.status) ≠ some 401 :=
      fun same => unauthorized (Except.error.inj (reflects.unauthorized_iff.mpr same))
    have failed : Evaluation.consented (.error e) = .error (.policyFailure e.message) := by
      cases e with
      | badStatus code =>
          unfold Evaluation.consented
          split
          · simp_all
          · simp_all
          · simp_all
      | _ => rfl
    constructor <;> simp [failed, silent, status]

theorem gated_consented (reply : Option Http.Response) (answer : Except PolicyError Authorization)
    (reflects : Reflects Authorization.decode reply answer) :
    Gated reply (Evaluation.consented answer) := by
  cases answer with
  | error e => exact gated_error reply e reflects
  | ok value => exact gated_ok reply value ((reflects.ok_iff value).mp rfl)

/-! ## The decision table -/

/-- What comes of a request that one rule is responsible for, by its mode and the request's token:
the outcome, what the policy service was asked, and the outside state that is left behind. -/
def Decided (env : Environment σ) (endpoints : Endpoints) (rule : Rule) (request : Request)
    (s after : σ) (calls : List Question) (outcome : Except Denial Session) : Prop :=
  match rule.mode, request.token with
  | .bypass, _ => outcome = .ok .bypassed ∧ calls = [] ∧ after = s
  | .anonymous, _ => outcome = .ok .anonymous ∧ calls = [] ∧ after = s
  | .publicAccess, none => outcome = .ok .anonymous ∧ calls = [] ∧ after = s
  | .publicAccess, some token =>
      ∃ reply, ((Question.introspect token).reply env endpoints).run s = .ok (reply, after) ∧
        calls = [.introspect token] ∧
        ∃ session, outcome = .ok session ∧
          (session.isAnonymous = false ↔
            ∃ answer, Delivers Introspection.decode reply answer ∧ answer.active = true)
  | .policy, none => outcome = .error .missingToken ∧ calls = [] ∧ after = s
  | .policy, some token =>
      let question := Question.authorize (Evaluation.queryOf rule request token)
      ∃ reply, (question.reply env endpoints).run s = .ok (reply, after) ∧
        calls = [question] ∧ Gated reply outcome

theorem ofIntrospection_outcome (token : String) (answer : Except PolicyError Introspection) :
    ∃ session, (Evaluation.ofIntrospection token answer).outcome = .ok session ∧
      (session.isAnonymous = false ↔ (Evaluation.identified answer).isSome = true) := by
  cases answer with
  | error e => exact ⟨.anonymous, rfl, by simp [Evaluation.identified, Session.anonymous]⟩
  | ok value =>
      cases active : value.active with
      | true =>
          refine ⟨{ Session.authenticated value.subject value.clientId with extra := value.extra },
            ?_, ?_⟩
          · simp [Evaluation.ofIntrospection, Evaluation.identified, active]
          · simp [Evaluation.identified, active, Session.authenticated]
      | false =>
          refine ⟨.anonymous, ?_, ?_⟩
          · simp [Evaluation.ofIntrospection, Evaluation.identified, active]
          · simp [Evaluation.identified, active, Session.anonymous]

/-- A run of a plan that leaves an evaluation and an outside state, and what it asked on the way. -/
structure Evaluation.Runs (client : PolicyClient σ) (plan : Plan) (s : σ) (evaluation : Evaluation)
    (after : σ) (calls : List Question) : Prop where
  plain : (carryOut client plan).run s = .ok (evaluation, after)
  watched : ∀ log, (carryOut client.watched plan).run (s, log) =
    .ok (evaluation, (after, log ++ calls))

theorem runs_settled (client : PolicyClient σ) (outcome : Except Denial Session) (s : σ) :
    Evaluation.Runs client (.settled outcome) s ⟨outcome, none, none⟩ s [] where
  plain := rfl
  watched log := by
    rw [List.append_nil]
    rfl

theorem runs_introspect (client : PolicyClient σ) (token : String) (s after : σ)
    (answer : Except PolicyError Introspection)
    (answered : (client.introspect token).run s = .ok (answer, after)) :
    Evaluation.Runs client (.ask (.introspect token)) s (Evaluation.ofIntrospection token answer)
      after [.introspect token] where
  plain := (Action.run_bind_ok _ _ s _).mpr ⟨answer, after, answered, rfl⟩
  watched log := by
    have noted := Action.noted_run (Question.introspect token) _ s log answer after answered
    exact (Action.run_bind_ok _ _ (s, log) _).mpr ⟨answer, _, noted, rfl⟩

theorem runs_authorize (client : PolicyClient σ) (query : AccessQuery) (s after : σ)
    (answer : Except PolicyError Authorization)
    (answered : (client.authorize query).run s = .ok (answer, after)) :
    Evaluation.Runs client (.ask (.authorize query)) s (Evaluation.ofAuthorization query answer)
      after [.authorize query] where
  plain := (Action.run_bind_ok _ _ s _).mpr ⟨answer, after, answered, rfl⟩
  watched log := by
    have noted := Action.noted_run (Question.authorize query) _ s log answer after answered
    exact (Action.run_bind_ok _ _ (s, log) _).mpr ⟨answer, _, noted, rfl⟩

-- The mode decides first; only under two of the modes the token has a say.
theorem planFor_decided (env : Environment σ) (endpoints : Endpoints) (rule : Rule)
    (request : Request) (s : σ) :
    ∃ evaluation after calls,
      Evaluation.Runs (PolicyClient.overHttp env endpoints) (Evaluation.planFor rule request) s
        evaluation after calls ∧
      calls.length ≤ 1 ∧ Decided env endpoints rule request s after calls evaluation.outcome := by
  cases mode : rule.mode with
  | bypass =>
      refine ⟨⟨.ok .bypassed, none, none⟩, s, [], ?_, by simp, ?_⟩
      · simpa only [Evaluation.planFor, mode] using runs_settled _ _ s
      · simp [Decided, mode]
  | anonymous =>
      refine ⟨⟨.ok .anonymous, none, none⟩, s, [], ?_, by simp, ?_⟩
      · simpa only [Evaluation.planFor, mode] using runs_settled _ _ s
      · simp [Decided, mode]
  | publicAccess =>
      cases shown : request.token with
      | none =>
          refine ⟨⟨.ok .anonymous, none, none⟩, s, [], ?_, by simp, ?_⟩
          · simpa only [Evaluation.planFor, mode, shown] using runs_settled _ _ s
          · simp [Decided, mode, shown]
      | some token =>
          obtain ⟨reply, after, answer, replied, answered, reflects⟩ :=
            introspect_reflects env endpoints token s
          obtain ⟨session, granted, identity⟩ := ofIntrospection_outcome token answer
          refine ⟨Evaluation.ofIntrospection token answer, after, [.introspect token], ?_, by simp, ?_⟩
          · simpa only [Evaluation.planFor, mode, shown] using
              runs_introspect _ token s after answer answered
          · simp only [Decided, mode, shown]
            refine ⟨reply, replied, trivial, session, granted, ?_⟩
            rw [identity]
            exact identified_isSome_iff _ reply answer reflects
  | policy =>
      cases shown : request.token with
      | none =>
          refine ⟨⟨.error .missingToken, none, none⟩, s, [], ?_, by simp, ?_⟩
          · simpa only [Evaluation.planFor, mode, shown] using runs_settled _ _ s
          · simp [Decided, mode, shown]
      | some token =>
          let query := Evaluation.queryOf rule request token
          obtain ⟨reply, after, answer, replied, answered, reflects⟩ :=
            authorize_reflects env endpoints query s
          refine ⟨Evaluation.ofAuthorization query answer, after, [.authorize query], ?_, by simp, ?_⟩
          · simpa only [Evaluation.planFor, mode, shown] using
              runs_authorize _ query s after answer answered
          · simp only [Decided, mode, shown]
            exact ⟨reply, replied, rfl, gated_consented reply answer reflects⟩

/-- The denial of a request that not exactly one rule matches. -/
def RuleSet.undecided (matching : List Rule) : Denial :=
  if matching.length = 0 then .noRule else .severalRules matching.length

theorem plan_single (rules : RuleSet) (request : Request) (rule : Rule)
    (single : rules.matching request.method request.matchUrl = [rule]) :
    Evaluation.plan rules request = Evaluation.planFor rule request := by
  simp only [Evaluation.plan, RuleSet.responsible, single]

theorem plan_undecided (rules : RuleSet) (request : Request)
    (several : ∀ rule, rules.matching request.method request.matchUrl ≠ [rule]) :
    Evaluation.plan rules request =
      .settled (.error (RuleSet.undecided (rules.matching request.method request.matchUrl))) := by
  unfold Evaluation.plan RuleSet.responsible
  rcases found : rules.matching request.method request.matchUrl with _ | ⟨first, _ | ⟨second, rest⟩⟩
  · rfl
  · exact absurd found (several first)
  · rfl

/-- The whole table. A request that not exactly one rule matches is denied and asks nothing; under
the one rule that matches the mode decides. What bypass and anonymous rules yield depends neither on
the token nor on the policy service. -/
theorem evaluate_decided (env : Environment σ) (endpoints : Endpoints) (rules : RuleSet)
    (request : Request) (s : σ) (log : List Question) :
    ∃ evaluation after calls,
      (evaluate (PolicyClient.overHttp env endpoints).watched rules request).run (s, log) =
        .ok (evaluation, (after, log ++ calls)) ∧
      (evaluate (PolicyClient.overHttp env endpoints) rules request).run s =
        .ok (evaluation, after) ∧
      calls.length ≤ 1 ∧
      ((∀ rule, rules.matching request.method request.matchUrl ≠ [rule]) →
        evaluation.outcome =
          .error (RuleSet.undecided (rules.matching request.method request.matchUrl)) ∧
        calls = [] ∧ after = s) ∧
      ∀ rule, rules.matching request.method request.matchUrl = [rule] →
        Decided env endpoints rule request s after calls evaluation.outcome ∧
        (rule.mode = .bypass ∨ rule.mode = .anonymous →
          ∀ (other : PolicyClient σ) (token : Option String) (elsewhere : σ),
            (evaluate other rules { request with token := token }).run elsewhere =
              .ok (evaluation, elsewhere)) := by
  by_cases single : ∃ rule, rules.matching request.method request.matchUrl = [rule]
  · obtain ⟨rule, found⟩ := single
    have planned := plan_single rules request rule found
    obtain ⟨evaluation, after, calls, runs, few, decided⟩ :=
      planFor_decided env endpoints rule request s
    rw [← planned] at runs
    refine ⟨evaluation, after, calls, runs.watched log, runs.plain, few, ?_, ?_⟩
    · intro several
      exact absurd found (several rule)
    · intro other same
      rw [found] at same
      cases same
      refine ⟨decided, ?_⟩
      intro fixed client token elsewhere
      have again := plan_single rules { request with token := token } rule found
      have ran := runs.plain
      rw [planned] at ran
      unfold evaluate
      rw [again]
      rcases fixed with bypass | anonymous
      · simp only [Evaluation.planFor, bypass] at ran ⊢
        cases ran
        rfl
      · simp only [Evaluation.planFor, anonymous] at ran ⊢
        cases ran
        rfl
  · have several : ∀ rule, rules.matching request.method request.matchUrl ≠ [rule] :=
      fun rule found => single ⟨rule, found⟩
    have runs := runs_settled (PolicyClient.overHttp env endpoints)
      (.error (RuleSet.undecided (rules.matching request.method request.matchUrl))) s
    rw [← plan_undecided rules request several] at runs
    refine ⟨_, s, [], runs.watched log, runs.plain, by simp, ?_, ?_⟩
    · exact fun _ => ⟨rfl, rfl, rfl⟩
    · intro rule found
      exact absurd found (several rule)

end AccessGate
