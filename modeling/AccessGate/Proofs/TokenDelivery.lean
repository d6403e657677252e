import AccessGate.Proofs.BearerToken
import AccessGate.Proofs.PolicyCalls

/-!
What the policy service is shown of a token. A query has it as it is, and the form that asks about it says it
and nothing else; a redirect sends the same form again, or none.
-/

namespace AccessGate

variable {σ α : Type}

namespace Http

/-! ## Redirects -/

/-- The exchanges that one request leads to. -/
inductive Chased : Outgoing → List Exchange → Prop
  | unsent (request : Outgoing) (other : Outgoing.isAskable request.url = false) : Chased request []
  | sent (request : Outgoing) (askable : Outgoing.isAskable request.url = true) (reply : Option Response) :
      Chased request [⟨request.completed, reply⟩]
  | moved (request : Outgoing) (askable : Outgoing.isAskable request.url = true) (reply : Response)
      (next : Outgoing) (redirect : redirected request reply = some next) (rest : List Exchange)
      (chased : Chased next rest) : Chased request (⟨request.completed, some reply⟩ :: rest)

/-- What is done with an answer, given what is done with a redirect. -/
def settle (request : Outgoing) (next : Outgoing → Action σ (Except SendError Response)) :
    Except SendError Response → Action σ (Except SendError Response)
  | .error e => pure (.error e)
  | .ok response =>
      match redirected request response with
      | none => pure (.ok response)
      | some moved => next moved

theorem follow_zero (env : Environment σ) (request : Outgoing) :
    follow env 0 request =
      sendOnce env request >>= settle request fun next => pure (.error (.redirectLoop next.url.render)) := by
  rw [follow]
  congr 1

theorem follow_succ (env : Environment σ) (left : Nat) (request : Outgoing) :
    follow env (left + 1) request = sendOnce env request >>= settle request (follow env left) := by
  rw [follow]
  congr 1

theorem settle_observed (env : Environment σ) (request : Outgoing)
    (next : Outgoing → Action σ (Except SendError Response))
    (watched : Outgoing → Action (σ × List Exchange) (Except SendError Response))
    (later : ∀ moved s, ∃ answer after seen, (seen = [] ∨ Chased moved seen) ∧
      (next moved).run s = .ok (answer, after) ∧
      ∀ log, (watched moved).run (s, log) = .ok (answer, (after, log ++ seen))) (s : σ) :
    ∃ answer after seen, Chased request seen ∧
      (sendOnce env request >>= settle request next).run s = .ok (answer, after) ∧
      ∀ log, (sendOnce env.observed request >>= settle request watched).run (s, log) =
        .ok (answer, (after, log ++ seen)) := by
  obtain ⟨answer, between, first, asked, ran, observed⟩ := sendOnce_observed env request s
  have steps : ∀ result after, (settle request next answer).run between = .ok (result, after) →
      (sendOnce env request >>= settle request next).run s = .ok (result, after) :=
    fun result after rest => (Action.run_bind_ok _ _ s _).mpr ⟨answer, between, ran, rest⟩
  have watchedSteps : ∀ log result after rest,
      (settle request watched answer).run (between, log ++ first) = .ok (result, (after, log ++ rest)) →
      (sendOnce env.observed request >>= settle request watched).run (s, log) =
        .ok (result, (after, log ++ rest)) :=
    fun log result after rest ended => (Action.run_bind_ok _ _ (s, log) _).mpr ⟨answer, _, observed log, ended⟩
  cases asked with
  | unaskable other =>
      exact ⟨_, between, [], .unsent request other, steps _ _ rfl, fun log => watchedSteps log _ _ _ rfl⟩
  | unanswered askable =>
      exact ⟨_, between, _, .sent request askable none, steps _ _ rfl, fun log => watchedSteps log _ _ _ rfl⟩
  | answered askable reply =>
      cases redirect : redirected request reply with
      | none =>
          have done : ∀ {τ : Type} (go : Outgoing → Action τ (Except SendError Response)),
              settle request go (.ok reply) = pure (.ok reply) := by
            intro τ go
            simp only [settle, redirect]
          refine ⟨.ok reply, between, _, .sent request askable (some reply), steps _ _ ?_,
            fun log => watchedSteps log _ _ _ ?_⟩
          · rw [done]
            rfl
          · rw [done]
            rfl
      | some moved =>
          have goes : ∀ {τ : Type} (go : Outgoing → Action τ (Except SendError Response)),
              settle request go (.ok reply) = go moved := by
            intro τ go
            simp only [settle, redirect]
          obtain ⟨result, after, rest, chased, ended, watchedEnd⟩ := later moved between
          refine ⟨result, after, ⟨request.completed, some reply⟩ :: rest, ?_, steps _ _ ?_,
            fun log => watchedSteps log _ _ _ ?_⟩
          · rcases chased with rfl | chased
            · exact .sent request askable (some reply)
            · exact .moved request askable reply moved redirect rest chased
          · rw [goes]
            exact ended
          · rw [goes, watchedEnd]
            simp

-- By induction on the redirects that are left, as the requests go out.
theorem follow_observed (env : Environment σ) (left : Nat) (request : Outgoing) (s : σ) :
    ∃ answer after seen, Chased request seen ∧ (follow env left request).run s = .ok (answer, after) ∧
      ∀ log, (follow env.observed left request).run (s, log) = .ok (answer, (after, log ++ seen)) := by
  induction left generalizing request s with
  | zero =>
      rw [follow_zero, follow_zero]
      refine settle_observed env request _ _ (fun moved s => ⟨_, s, [], .inl rfl, rfl, fun log => ?_⟩) s
      rw [List.append_nil]
      rfl
  | succ left ih =>
      rw [follow_succ, follow_succ]
      refine settle_observed env request _ _ (fun moved s => ?_) s
      obtain ⟨answer, after, seen, chased, ran, observed⟩ := ih moved s
      exact ⟨answer, after, seen, .inr chased, ran, observed⟩

/-- What redirects keep holds of everything that is sent. -/
theorem Chased.invariant {request : Outgoing} {seen : List Exchange} (fit : Outgoing → Prop)
    (moves : ∀ request reply next, fit request → redirected request reply = some next → fit next)
    (chased : Chased request seen) (start : fit request) :
    ∀ exchange ∈ seen, ∃ source, fit source ∧ exchange.request = source.completed := by
  induction chased with
  | unsent request other => exact nofun
  | sent request askable reply =>
      intro exchange member
      cases List.mem_singleton.mp member
      exact ⟨request, start, rfl⟩
  | moved request askable reply next redirect rest chased ih =>
      intro exchange member
      rcases List.mem_cons.mp member with rfl | later
      · exact ⟨request, start, rfl⟩
      · exact ih (moves request reply next start redirect) exchange later

theorem Chased.first {request : Outgoing} {seen : List Exchange} (chased : Chased request seen) :
    seen.head?.map (·.request) = if Outgoing.isAskable request.url then some request.completed else none := by
  cases chased with
  | unsent request other => simp [other]
  | sent request askable reply => simp [askable]
  | moved request askable reply next redirect rest chased => simp [askable]

end Http

/-! ## The form that asks about a token -/

open PolicyClient (Endpoints)
open Http (Outgoing)

/-- A request that shows a form with nothing but a token. -/
structure ShowsToken (token : String) (request : Outgoing) : Prop where
  method : request.method = .post
  type : request.headers.getAll "content-type" =
    [Utf8.encode "application/x-www-form-urlencoded".toList]
  pairs : (Utf8.decode? request.body).map Form.parse = some [("token".toList, token.toList)]

/-- A request that shows nothing. -/
structure ShowsNothing (request : Outgoing) : Prop where
  method : request.method = .get
  body : request.body = []

theorem getAll_withoutFields (request : Outgoing) (names : List String) (name : String)
    (other : names.contains name = false) :
    (request.withoutFields names).headers.getAll name = request.headers.getAll name := by
  unfold Outgoing.withoutFields Http.Headers.getAll
  rw [List.filter_filter]
  congr 2
  funext field
  by_cases same : field.1 = name
  · simpa [same] using other
  · simp [same]

theorem ShowsToken.movedTo {token : String} {request : Outgoing} (shows_ : ShowsToken token request)
    (url : Url) : ShowsToken token (request.movedTo url) := by
  unfold Outgoing.movedTo
  dsimp only
  split
  · exact ⟨shows_.method, shows_.type, shows_.pairs⟩
  · refine ⟨shows_.method, ?_, shows_.pairs⟩
    exact (getAll_withoutFields request _ _ (by decide)).trans shows_.type

theorem ShowsNothing.movedTo {request : Outgoing} (shows_ : ShowsNothing request) (url : Url) :
    ShowsNothing (request.movedTo url) := by
  unfold Outgoing.movedTo
  dsimp only
  split
  · exact ⟨shows_.method, shows_.body⟩
  · exact ⟨shows_.method, shows_.body⟩

theorem shown_redirected (token : String) (request : Outgoing) (reply : Http.Response) (next : Outgoing)
    (shown : ShowsToken token request ∨ ShowsNothing request)
    (redirect : Http.redirected request reply = some next) :
    ShowsToken token next ∨ ShowsNothing next := by
  have moved : ∀ url, ShowsToken token (request.movedTo url) ∨ ShowsNothing (request.movedTo url) :=
    fun url => shown.imp (·.movedTo url) (·.movedTo url)
  unfold Http.redirected at redirect
  dsimp only at redirect
  split at redirect
  · obtain ⟨url, -, rfl⟩ := Option.map_eq_some_iff.mp redirect
    exact moved url
  · split at redirect
    · simp only [Option.map_map] at redirect
      obtain ⟨url, -, rfl⟩ := Option.map_eq_some_iff.mp redirect
      right
      dsimp only [Function.comp]
      unfold Outgoing.asking
      split
      · rename_i asks
        rcases moved url with form | nothing
        · rw [form.method] at asks
          exact absurd asks (by decide)
        · exact nothing
      · exact ⟨rfl, rfl⟩
    · cases redirect

theorem ShowsToken.completed {token : String} {request : Outgoing} (shows_ : ShowsToken token request) :
    ShowsToken token request.completed := by
  have type := Http.Outgoing.getAll_completed request "content-type" (by decide)
  unfold Outgoing.completed at type ⊢
  split
  · exact shows_
  · rename_i added
    rw [if_neg added] at type
    exact ⟨shows_.method, type.trans shows_.type, shows_.pairs⟩

theorem ShowsNothing.completed {request : Outgoing} (shows_ : ShowsNothing request) :
    ShowsNothing request.completed := by
  unfold Outgoing.completed
  split
  · exact shows_
  · exact ⟨shows_.method, shows_.body⟩

theorem getAll_append (name other : String) (value : Http.Octets) (request : Outgoing) :
    ({ request with headers := request.headers.append name value } : Outgoing).headers.getAll other =
      request.headers.getAll other ++ if name = other then [value] else [] := by
  unfold Http.Headers.append Http.Headers.getAll
  by_cases same : name = other
  · simp [same]
  · simp [same]

theorem introspect_shows (endpoints : Endpoints) (token : String) (request : Outgoing)
    (built : (Question.introspect token).outgoing? endpoints = some (.ok request)) :
    ShowsToken token request := by
  obtain ⟨address, -, made⟩ := Option.map_eq_some_iff.mp built
  obtain ⟨bare, text, shown⟩ := (Url.bind_ok _ _ _).mp made
  have form : ShowsToken token (bare.withForm (PolicyClient.tokenForm token)) := by
    rw [← String.ofList_toList (s := address)] at text
    obtain ⟨url, -, -, rfl⟩ := (Proxy.ofText_iff _ _ _).mp text
    refine ⟨rfl, ?_, ?_⟩
    · refine (getAll_append _ _ _ _).trans ?_
      have none_ : ∀ value : Http.Octets, Http.Headers.getAll "content-type"
          (if url.userInfo.isEmpty then [] else [("authorization", value)]) = [] := by
        intro value
        split
        · rfl
        · rfl
      rw [none_, if_pos rfl]
      rfl
    · change (Utf8.decode? (Utf8.encode (Form.render (PolicyClient.tokenForm token)))).map Form.parse = _
      rw [Utf8.decode_encode, Option.map_some, Form.parse_render]
      rfl
  unfold PolicyClient.authenticated at shown
  split at shown
  · unfold Outgoing.withBearer Outgoing.withHeader at shown
    split at shown
    · cases shown
      refine ⟨form.method, (getAll_append _ _ _ _).trans ?_, form.pairs⟩
      rw [form.type, if_neg (by decide), List.append_nil]
    · cases shown
  · cases shown
    exact form

/-- What goes out for the question about a token. -/
structure Delivered (endpoints : Endpoints) (token : String) (seen : List Exchange) : Prop where
  sent_iff : seen ≠ [] ↔ ∃ request, (Question.introspect token).outgoing? endpoints = some (.ok request) ∧
    Outgoing.isAskable request.url = true
  first : ∀ exchange, seen.head? = some exchange → ShowsToken token exchange.request
  others : ∀ exchange ∈ seen, ShowsToken token exchange.request ∨ ShowsNothing exchange.request

theorem delivered_none (endpoints : Endpoints) (token : String)
    (unbuilt : ∀ request, (Question.introspect token).outgoing? endpoints ≠ some (.ok request)) :
    Delivered endpoints token [] where
  sent_iff := iff_of_false (fun some_ => some_ rfl) fun ⟨request, built, _⟩ => unbuilt request built
  first := nofun
  others := nofun

theorem delivered_of_chased (endpoints : Endpoints) (token : String) (request : Outgoing)
    (seen : List Exchange) (built : (Question.introspect token).outgoing? endpoints = some (.ok request))
    (chased : Http.Chased request seen) : Delivered endpoints token seen := by
  have form := introspect_shows endpoints token request built
  have first := chased.first
  constructor
  · constructor
    · intro some_
      refine ⟨request, built, ?_⟩
      by_contra unaskable
      rw [if_neg unaskable, Option.map_eq_none_iff, List.head?_eq_none_iff] at first
      exact some_ first
    · rintro ⟨other, again, askable⟩ rfl
      cases built.symm.trans again
      rw [if_pos askable] at first
      cases first
  · intro exchange head
    rw [head, Option.map_some] at first
    split at first
    · rw [Option.some.inj first]
      exact form.completed
    · cases first
  · intro exchange member
    obtain ⟨source, fit, same⟩ :=
      chased.invariant (fun request => ShowsToken token request ∨ ShowsNothing request)
        (shown_redirected token) (.inl form) exchange member
    rw [same]
    exact fit.imp (·.completed) (·.completed)

theorem ask_observed (env : Environment σ) (decode : Json.Node → Except Json.ReadError α)
    (request : Outgoing) (s : σ) :
    ∃ answer after seen, Http.Chased request seen ∧
      (PolicyClient.ask env decode (.ok request)).run s = .ok (answer, after) ∧
      ∀ log, (PolicyClient.ask env.observed decode (.ok request)).run (s, log) =
        .ok (answer, (after, log ++ seen)) := by
  obtain ⟨reply, after, seen, chased, ran, observed⟩ :=
    Http.follow_observed env Http.maxRedirects request s
  cases reply with
  | error e =>
      exact ⟨.error (.unreachable e.message), after, seen, chased,
        (Action.run_bind_ok _ _ s _).mpr ⟨_, after, ran, rfl⟩,
        fun log => (Action.run_bind_ok _ _ (s, log) _).mpr ⟨_, _, observed log, rfl⟩⟩
  | ok reply =>
      exact ⟨PolicyClient.decodeAnswer decode reply, after, seen, chased,
        (Action.run_bind_ok _ _ s _).mpr ⟨_, after, ran, rfl⟩,
        fun log => (Action.run_bind_ok _ _ (s, log) _).mpr ⟨_, _, observed log, rfl⟩⟩

theorem introspect_delivered (env : Environment σ) (endpoints : Endpoints) (token : String) (s : σ) :
    ∃ answer after seen, Delivered endpoints token seen ∧
      ((PolicyClient.overHttp env endpoints).introspect token).run s = .ok (answer, after) ∧
      ∀ log, ((PolicyClient.overHttp env.observed endpoints).introspect token).run (s, log) =
        .ok (answer, (after, log ++ seen)) := by
  cases address : endpoints.introspectionUrl with
  | none =>
      refine ⟨.error (.notConfigured "policy.introspection_url"), s, [],
        delivered_none endpoints token fun request built => ?_, ?_, fun log => ?_⟩
      · simp [Question.outgoing?, address] at built
      · simp only [PolicyClient.overHttp, address]
        rfl
      · simp only [PolicyClient.overHttp, address, List.append_nil]
        rfl
  | some url =>
      let request : Except Http.SendError Outgoing := do
        let request ← Outgoing.ofText .post url
        PolicyClient.authenticated endpoints (request.withForm (PolicyClient.tokenForm token))
      have built : (Question.introspect token).outgoing? endpoints = some request := by
        simp only [Question.outgoing?, address, Option.map_some]
        rfl
      have asks : ∀ {τ : Type} (env : Environment τ), (PolicyClient.overHttp env endpoints).introspect token =
          PolicyClient.ask env Introspection.decode request := by
        intro τ env
        simp only [PolicyClient.overHttp, address]
        rfl
      rw [asks, asks]
      cases outgoing : request with
      | error e =>
          refine ⟨.error (.unreachable e.message), s, [],
            delivered_none endpoints token fun other again => ?_, rfl, fun log => ?_⟩
          · rw [built, outgoing] at again
            cases again
          · rw [List.append_nil]
            rfl
      | ok request =>
          rw [outgoing] at built
          obtain ⟨answer, after, seen, chased, ran, observed⟩ :=
            ask_observed env Introspection.decode request s
          exact ⟨answer, after, seen, delivered_of_chased endpoints token request seen built chased, ran,
            observed⟩

/-! ## From the caller to the service -/

/-- The token that a call shows to the service. -/
def PolicyCall.token : PolicyCall → String
  | introspected token _ => token
  | authorized query _ => query.token

theorem plan_asks (rules : RuleSet) (request : Request) (question : Question)
    (asks : Evaluation.plan rules request = .ask question) : ∃ token, request.token = some token ∧
      (question = .introspect token ∨
        ∃ rule, question = .authorize (Evaluation.queryOf rule request token)) := by
  unfold Evaluation.plan at asks
  split at asks
  · cases asks
  · rename_i rule _
    unfold Evaluation.planFor at asks
    split at asks
    all_goals cases asks
    · exact ⟨_, ‹_›, .inl rfl⟩
    · exact ⟨_, ‹_›, .inr ⟨rule, rfl⟩⟩

theorem token_of_answered (rules : RuleSet) (request : Request) (evaluation : Evaluation)
    (calls : List PolicyCall) (answered : Answered (Evaluation.plan rules request) evaluation calls) :
    ∀ call ∈ calls, request.token = some call.token := by
  intro call member
  cases plan : Evaluation.plan rules request with
  | settled outcome =>
      rw [plan] at answered
      cases answered
      cases member
  | ask question =>
      obtain ⟨token, shown, rfl | ⟨rule, rfl⟩⟩ := plan_asks rules request question plan
      · rw [plan] at answered
        cases answered
        cases List.mem_singleton.mp member
        exact shown
      · rw [plan] at answered
        cases answered
        cases List.mem_singleton.mp member
        exact shown

namespace Entrance

/-- The token of a request, by the entrance that it came in at: of the call itself, or of the description
unless it is empty. -/
inductive Tells (incoming : Http.Incoming) (request : Request) : Entrance → Prop
  | proxy (told : Request.Bearing incoming.headers request.url request.token) :
      Tells incoming request .proxy
  | mirrored (told : Request.Bearing incoming.headers request.url request.token) :
      Tells incoming request .mirrored
  | described (query : JudgeQuery) (read : Judge.queryOf incoming = .ok query)
      (told : ∀ token, request.token = some token ↔ query.token = some token ∧ token ≠ "") :
      Tells incoming request .described

theorem bearing_of_http (method : Http.Method) (target : Http.Target) (headers : Http.Headers)
    (peer : Option Net.SocketAddress) (request : Request)
    (read : Request.ofHttp method target headers peer = .ok request) :
    Request.Bearing headers request.url request.token :=
  (Request.bearing_iff _ _ _).mpr (Request.ofHttp_fields _ _ _ _ request read).2.1.symm

theorem described_token (query : JudgeQuery) (incoming : Http.Incoming) (request : Request)
    (read : query.request incoming = .ok request) (token : String) :
    request.token = some token ↔ query.token = some token ∧ token ≠ "" := by
  unfold JudgeQuery.request at read
  split at read
  · cases read
  · rename_i method _
    split at read
    · cases read
    · rename_i url _
      cases read
      cases shown : query.token with
      | none =>
          cases Request.rawAuthority? query.url.toList with
          | none => simp [Request.ofUrl]
          | some authority => simp [Request.ofUrl]
      | some told =>
          by_cases empty : told = ""
          · subst empty
            simp [Request.withToken, eq_comm]
          · have kept : told = token ↔ told = token ∧ token ≠ "" :=
              ⟨fun same => ⟨same, same ▸ empty⟩, And.left⟩
            simpa [Request.withToken, empty] using kept

theorem tells_of_request (incoming : Http.Incoming) (entrance : Entrance) (request : Request)
    (read : entrance.request incoming = .ok request) : entrance.Tells incoming request := by
  cases entrance with
  | proxy => exact .proxy (bearing_of_http _ _ _ _ request ((Json.mapError_ok _ _ _).mp read))
  | mirrored =>
      have inner := (Json.mapError_ok _ _ _).mp read
      unfold Judge.innerRequest at inner
      split at inner
      · cases inner
      · exact .mirrored (bearing_of_http _ _ _ _ request inner)
  | described =>
      unfold Entrance.request at read
      cases found : Judge.queryOf incoming with
      | error refusal =>
          rw [found] at read
          cases read
      | ok query =>
          rw [found] at read
          exact .described query found (described_token query incoming request ((Json.mapError_ok _ _ _).mp read))

theorem Tells.ne_empty {incoming : Http.Incoming} {request : Request} {entrance : Entrance}
    (tells : entrance.Tells incoming request) (token : String) (shown : request.token = some token) :
    token ≠ "" := by
  cases tells with
  | proxy told =>
      exact Request.tokenOf_ne_empty _ _ token (((Request.bearing_iff _ _ _).mp told).trans shown)
  | mirrored told =>
      exact Request.tokenOf_ne_empty _ _ token (((Request.bearing_iff _ _ _).mp told).trans shown)
  | described query read told => exact ((told token).mp shown).2

end Entrance

/-- A token reaches the policy service as the caller showed it. A header or else the query tells it, by one
rule; any text can be shown in a query, and is read off the URL of the request; every call of the service shows
the token of the request, which is never empty; and the form that asks about a token says it and nothing else. -/
theorem token_unaltered :
    (∀ headers url told, Request.Bearing headers url told ↔ Request.tokenOf headers url = told) ∧
    (∀ (front : List Char) (url : Url), (∀ c ∈ front, Url.endsPath c = false) →
      Url.parse (front ++ ['?']) = .ok url → ∀ before token after,
        (∀ pair ∈ before, pair.1 ≠ "access_token".toList) → ∃ found,
          Url.parse (front ++ '?' :: Form.render (before ++ ("access_token".toList, token) :: after)) =
            .ok found ∧ Request.Queried found token) ∧
    (∀ method (front : List Char) before token after target headers peer request,
      (∀ c ∈ front, Url.endsPath c = false) → (∀ pair ∈ before, pair.1 ≠ "access_token".toList) →
      Http.Target.parse (front ++ '?' :: Form.render (before ++ ("access_token".toList, token) :: after)) =
        .ok target →
      (∀ c ∈ Request.schemeOf target headers, Url.endsPath c = false) →
      Request.ofHttp method target headers peer = .ok request → Request.Queried request.url token) ∧
    (∀ (arbiter : Arbiter σ) backend incoming (entrance : Entrance) keys held s after response,
      ((entrance.serve arbiter backend incoming).run keys).run s = .ok ((response, held), after) →
      ∃ calls,
        (∀ log, ((entrance.serve arbiter.recorded backend incoming).run keys).run (s, log) =
          .ok ((response, held), (after, log ++ calls))) ∧
        ∀ request, entrance.request incoming = .ok request → entrance.Tells incoming request ∧
          ∀ call ∈ calls, request.token = some call.token ∧ call.token ≠ "") ∧
    ∀ (env : Environment σ) endpoints token s, ∃ answer after seen, Delivered endpoints token seen ∧
      ((PolicyClient.overHttp env endpoints).introspect token).run s = .ok (answer, after) ∧
      ∀ log, ((PolicyClient.overHttp env.observed endpoints).introspect token).run (s, log) =
        .ok (answer, (after, log ++ seen)) := by
  refine ⟨Request.bearing_iff, ?_, ?_, ?_, introspect_delivered⟩
  · intro front url unended begun before token after others
    obtain ⟨found, read, pairs⟩ := Url.parse_form front unended url begun
      (before ++ ("access_token".toList, token) :: after)
    exact ⟨found, read, before, after, pairs, others⟩
  · intro method front before token after target headers peer request unended others parsed schemed read
    exact ⟨before, after,
      Request.ofHttp_form method front _ target headers peer request unended parsed schemed read, others⟩
  · intro arbiter backend incoming entrance keys held s after response served
    obtain ⟨calls, recorded, made⟩ :=
      serve_recorded arbiter backend incoming entrance keys held s after response served
    refine ⟨calls, recorded, fun request read => ?_⟩
    have tells := Entrance.tells_of_request incoming entrance request read
    obtain ⟨evaluation, answered⟩ := made request read
    refine ⟨tells, fun call member => ?_⟩
    have shown := token_of_answered arbiter.rules request evaluation calls answered call member
    exact ⟨shown, tells.ne_empty call.token shown⟩

/-- A token with characters that forms have other uses for. -/
def spelledForm : List (List Char × List Char) :=
  [("x".toList, "1".toList), ("access_token".toList, "é +&".toList)]

def spelledCall : Http.Incoming :=
  ⟨.get, .origin "/judge/a".toList (some (Form.render spelledForm)),
    [("host", Utf8.encode "[::1]".toList)], none, []⟩

theorem askingArbiter_serves (incoming : Http.Incoming) (request : Request) (token : String)
    (read : Entrance.mirrored.request incoming = .ok request) (shown : request.token = some token) :
    ∃ response query answer,
      ((Entrance.mirrored.serve askingArbiter Proxy.openGate.backend incoming).run
        (.ofSource (.agreed agreedKey))).run () = .ok ((response, .ofSource (.agreed agreedKey)), ()) ∧
      ((Entrance.mirrored.serve askingArbiter.recorded Proxy.openGate.backend incoming).run
        (.ofSource (.agreed agreedKey))).run ((), []) =
          .ok ((response, .ofSource (.agreed agreedKey)), ((), [.authorized query answer])) := by
  obtain ⟨denial, served⟩ := askingArbiter_denies incoming request token read shown
    (.ofSource (.agreed agreedKey))
  obtain ⟨calls, recorded, made⟩ := serve_recorded _ _ _ _ _ _ _ _ _ served
  obtain ⟨evaluation, answered⟩ := made request read
  have asked := policyAsked_of_answered _ incoming _ askingRule request evaluation calls read
    (askingArbiter_matching request) rfl answered
  cases asked with
  | unshown silent => cases silent.symm.trans shown
  | asked context address supplied query derived answer => exact ⟨_, query, answer, served, recorded []⟩

theorem token_unaltered_spelled : ∃ begun found request response call,
    Url.parse ("http://[::1]/".toList ++ ['?']) = .ok begun ∧
    Url.parse ("http://[::1]/".toList ++ '?' :: Form.render spelledForm) = .ok found ∧
    Request.Queried found "é +&".toList ∧
    Entrance.mirrored.request spelledCall = .ok request ∧ request.token = some "é +&" ∧
    ((Entrance.mirrored.serve askingArbiter.recorded Proxy.openGate.backend spelledCall).run
      (.ofSource (.agreed agreedKey))).run ((), []) =
        .ok ((response, .ofSource (.agreed agreedKey)), ((), [call])) ∧ call.token = "é +&" := by
  obtain ⟨-, spelled, -, delivered, -⟩ := token_unaltered (σ := Unit)
  obtain ⟨begun, opened⟩ : ∃ begun, Url.parse ("http://[::1]/".toList ++ ['?']) = .ok begun := ⟨_, rfl⟩
  have unended : ∀ c ∈ "http://[::1]/".toList, Url.endsPath c = false := by simp [Url.endsPath]
  obtain ⟨found, parsed, queried⟩ := spelled "http://[::1]/".toList begun unended opened
    [("x".toList, "1".toList)] "é +&".toList [] (by decide)
  have read : (Judge.innerRequest spelledCall).toOption.bind (·.token) = some "é +&" := by
    decide +kernel
  cases inner : Judge.innerRequest spelledCall with
  | error denial =>
      rw [inner] at read
      cases read
  | ok request =>
      rw [inner] at read
      have entered : Entrance.mirrored.request spelledCall = .ok request := by
        simp only [Entrance.request, inner]
        rfl
      obtain ⟨response, query, answer, served, recorded⟩ :=
        askingArbiter_serves spelledCall request "é +&" entered read
      obtain ⟨calls, again, told⟩ := delivered _ _ _ _ _ _ _ _ _ served
      have same : calls = [.authorized query answer] := by
        have whole := Except.ok.inj ((again []).symm.trans recorded)
        simpa using congrArg (·.2.2) whole
      subst same
      obtain ⟨shown, -⟩ := (told request entered).2 _ (List.mem_singleton_self _)
      exact ⟨begun, found, request, response, _, opened, parsed, queried, entered, read, recorded,
        Option.some.inj (shown.symm.trans read)⟩

end AccessGate
