import AccessGate.Proofs.ConnectionScope
import AccessGate.Proofs.Http.Userless
import AccessGate.Proofs.Recorded
import AccessGate.Proofs.Shipment
import AccessGate.Proofs.Upstream

/-!
What a request that is let through and its response are on the other side of the gate. A record of what
leaves and what comes back says what the backend was asked; the fields of both are the ones that came in,
without those for one connection only.
-/

namespace AccessGate

variable {σ : Type}

/-- A request that left, and what came back for it. -/
structure Exchange where
  request : Http.Outgoing
  reply : Option Http.Response

/-- The same outside, with a record of all exchanges. -/
def Environment.observed (env : Environment σ) : Environment (σ × List Exchange) :=
  { (env.beside : Environment (σ × List Exchange)) with
    exchange := fun request (s, log) =>
      let (reply, after) := env.exchange request s
      (reply, (after, log ++ [⟨request, reply⟩])) }

namespace Http

/-! ## What leaves -/

/-- What becomes of a request, with the exchange for it. -/
inductive Asked (request : Outgoing) : List Exchange → Except SendError Response → Prop
  | unaskable (other : Outgoing.isAskable request.url = false) :
      Asked request [] (.error (.unsupported request.url.render))
  | unanswered (askable : Outgoing.isAskable request.url = true) :
      Asked request [⟨request.completed, none⟩] (.error (.noAnswer request.url.render))
  | answered (askable : Outgoing.isAskable request.url = true) (reply : Response) :
      Asked request [⟨request.completed, some reply⟩] (.ok reply)

theorem sendOnce_observed (env : Environment σ) (request : Outgoing) (s : σ) :
    ∃ answer after seen, Asked request seen answer ∧
      (sendOnce env request).run s = .ok (answer, after) ∧
      ∀ log, (sendOnce env.observed request).run (s, log) = .ok (answer, (after, log ++ seen)) := by
  cases askable : Outgoing.isAskable request.url with
  | false =>
      refine ⟨_, s, [], .unaskable askable, ?_, fun log => ?_⟩
      · simp only [sendOnce, askable, Bool.false_eq_true, if_false]
        rfl
      · simp only [sendOnce, askable, Bool.false_eq_true, if_false, List.append_nil]
        rfl
  | true =>
      cases answered : env.exchange request.completed s with
      | mk reply after =>
          have sent : (env.send request.completed).run s = .ok (reply, after) :=
            congrArg Except.ok answered
          have seen : ∀ log, (env.observed.send request.completed).run (s, log) =
              .ok (reply, (after, log ++ [⟨request.completed, reply⟩])) := by
            intro log
            change Except.ok (env.observed.exchange request.completed (s, log)) = _
            simp only [Environment.observed, answered]
          simp only [sendOnce, askable, if_true]
          cases reply with
          | none =>
              refine ⟨_, after, _, .unanswered askable, ?_, fun log => ?_⟩
              · exact (Action.run_bind_ok _ _ s _).mpr ⟨none, after, sent, rfl⟩
              · exact (Action.run_bind_ok _ _ (s, log) _).mpr ⟨none, _, seen log, rfl⟩
          | some reply =>
              refine ⟨_, after, _, .answered askable reply, ?_, fun log => ?_⟩
              · exact (Action.run_bind_ok _ _ s _).mpr ⟨some reply, after, sent, rfl⟩
              · exact (Action.run_bind_ok _ _ (s, log) _).mpr ⟨some reply, _, seen log, rfl⟩

theorem Outgoing.getAll_completed (request : Outgoing) (name : String) (other : name ≠ "accept") :
    request.completed.headers.getAll name = request.headers.getAll name := by
  unfold Outgoing.completed
  split
  · rfl
  · simp [Headers.getAll, Headers.append, Ne.symm other]

theorem Outgoing.completed_rest (request : Outgoing) :
    request.completed.method = request.method ∧ request.completed.url = request.url ∧
      request.completed.body = request.body := by
  unfold Outgoing.completed
  split
  · exact ⟨rfl, rfl, rfl⟩
  · exact ⟨rfl, rfl, rfl⟩

end Http

namespace Proxy

open Http (Headers)

/-- What becomes of a request that is let through, with the exchange for it. -/
inductive Relayed (target : Http.Target) (incoming : Http.Incoming) (credential : Option String) :
    List Exchange → Http.Response → Prop
  | unfit (denial : Denial) (failed : outgoing target incoming credential = .error denial) :
      Relayed target incoming credential [] denial.response
  | fit (request : Http.Outgoing) (built : outgoing target incoming credential = .ok request)
      (seen : List Exchange) (answer : Except Http.SendError Http.Response)
      (asked : Http.Asked request seen answer) :
      Relayed target incoming credential seen (told answer)

theorem roundTrip_unfit (env : Environment σ) (target : Http.Target) (incoming : Http.Incoming)
    (credential : Option String) (s : σ) (denial : Denial)
    (failed : outgoing target incoming credential = .error denial) :
    (roundTrip env target incoming (some (.allowed credential))).run s = .ok (denial.response, s) := by
  simp only [roundTrip, forward, failed]
  rfl

theorem roundTrip_fit (env : Environment σ) (target : Http.Target) (incoming : Http.Incoming)
    (credential : Option String) (s after : σ) (request : Http.Outgoing)
    (answer : Except Http.SendError Http.Response)
    (built : outgoing target incoming credential = .ok request)
    (sent : (Http.sendOnce env request).run s = .ok (answer, after)) :
    (roundTrip env target incoming (some (.allowed credential))).run s = .ok (told answer, after) := by
  simp only [roundTrip, forward, built]
  cases answer with
  | ok response =>
      refine (Action.run_bind_ok _ _ s _).mpr ⟨.ok (returned response), after, ?_, rfl⟩
      exact (Action.run_bind_ok _ _ s _).mpr ⟨.ok response, after, sent, rfl⟩
  | error e =>
      refine (Action.run_bind_ok _ _ s _).mpr ⟨.error (.backendFailure e.message), after, ?_, rfl⟩
      exact (Action.run_bind_ok _ _ s _).mpr ⟨.error e, after, sent, rfl⟩

theorem roundTrip_observed (env : Environment σ) (target : Http.Target) (incoming : Http.Incoming)
    (credential : Option String) (s : σ) :
    ∃ response after seen, Relayed target incoming credential seen response ∧
      (roundTrip env target incoming (some (.allowed credential))).run s = .ok (response, after) ∧
      ∀ log, (roundTrip env.observed target incoming (some (.allowed credential))).run (s, log) =
        .ok (response, (after, log ++ seen)) := by
  cases built : outgoing target incoming credential with
  | error denial =>
      refine ⟨_, s, [], .unfit denial built, roundTrip_unfit env _ _ _ s denial built, fun log => ?_⟩
      rw [List.append_nil]
      exact roundTrip_unfit env.observed _ _ _ (s, log) denial built
  | ok request =>
      obtain ⟨answer, after, seen, asked, plain, observed⟩ := Http.sendOnce_observed env request s
      refine ⟨_, after, seen, .fit request built seen answer asked, ?_, fun log => ?_⟩
      · exact roundTrip_fit env _ _ _ s after request answer built plain
      · exact roundTrip_fit env.observed _ _ _ (s, log) _ request answer built (observed log)

/-! ## The fields of the request -/

/-- The address of a peer stands at the end of the chain. -/
def addressed (peer : Option Net.SocketAddress) (headers : Headers) : Headers :=
  match peer with
  | some peer => withForwardedFor headers peer.address.render
  | none => headers

theorem getAll_addressed (peer : Option Net.SocketAddress) (headers : Headers) (name : String)
    (other : name ≠ "x-forwarded-for") : (addressed peer headers).getAll name = headers.getAll name := by
  cases peer with
  | none => rfl
  | some peer => simp only [addressed, withForwardedFor, Headers.getAll_insert, if_neg other]

theorem forwardedHeaders_none (incoming : Http.Incoming) :
    forwardedHeaders incoming none =
      .ok (addressed incoming.peer ((endToEnd incoming.headers).erase "host")) := by
  unfold forwardedHeaders addressed
  cases incoming.peer with
  | none => rfl
  | some peer => rfl

theorem forwardedHeaders_some (incoming : Http.Incoming) (token : String) (headers : Headers) :
    forwardedHeaders incoming (some token) = .ok headers ↔
      ∃ value, Http.fieldText? ("Bearer " ++ token) = some value ∧ headers =
        addressed incoming.peer
          (((endToEnd incoming.headers).erase "host").insert "authorization" value) := by
  unfold forwardedHeaders addressed
  cases shown : Http.fieldText? ("Bearer " ++ token) with
  | none => simp [credentialField?, shown, bind, Except.bind, Except.map]
  | some value =>
      have field : credentialField? token = .ok value := by simp only [credentialField?, shown]
      cases incoming.peer with
      | none => simp [field, bind, Except.bind, Except.map, pure, Except.pure, eq_comm]
      | some peer => simp [field, bind, Except.bind, Except.map, pure, Except.pure, eq_comm]

/-- What the backend is shown of the caller's credentials: the one that stands for the caller, or the
caller's own. -/
inductive Shown (headers : Headers) : Option String → List Http.Octets → Prop
  | instead (token : String) : Shown headers (some token) [Utf8.encode ("Bearer " ++ token).toList]
  | dropped (named : Nominated headers "authorization") : Shown headers none []
  | kept (unnamed : ¬ Nominated headers "authorization") :
      Shown headers none (headers.getAll "authorization")

theorem Shown.of_credential {headers : Headers} {token : String} {values : List Http.Octets}
    (shown : Shown headers (some token) values) :
    values = [Utf8.encode ("Bearer " ++ token).toList] := by
  cases shown
  rfl

/-- The fields that a client may put in by itself, and the chain of addresses. -/
def ownFields : List String := ["accept", "host", "content-length", "x-forwarded-for"]

/-- The fields of a request on both sides of the gate. -/
structure Rewritten (headers : Headers) (credential : Option String) (sent : Headers) : Prop where
  authorization : Shown headers credential (sent.getAll "authorization")
  host : sent.getAll "host" = []
  others : ∀ name, name ≠ "authorization" → name ∉ ownFields →
    sent.getAll name = if ConnectionScoped headers name then [] else headers.getAll name

theorem fieldText_value (text : String) (value : Http.Octets)
    (shown : Http.fieldText? text = some value) : value = Utf8.encode text.toList := by
  unfold Http.fieldText? Http.fieldValue? at shown
  split at shown
  · cases shown
    rfl
  · cases shown

/-- The fields of a request before its peer is put at the end of the chain. -/
structure Fronted (headers : Headers) (credential : Option String) (front : Headers) : Prop where
  authorization : Shown headers credential (front.getAll "authorization")
  host : front.getAll "host" = []
  others : ∀ name, name ≠ "authorization" → name ≠ "host" →
    front.getAll name = if ConnectionScoped headers name then [] else headers.getAll name

theorem fronted_none (headers : Headers) :
    Fronted headers none ((endToEnd headers).erase "host") := by
  constructor
  · rw [Headers.getAll_erase, if_neg (by decide), getAll_endToEnd]
    split
    · rename_i named
      exact .dropped ((connectionScoped_iff headers _ (by decide)).mp named)
    · rename_i unnamed
      exact .kept (mt (connectionScoped_iff headers _ (by decide)).mpr unnamed)
  · rw [Headers.getAll_erase, if_pos rfl]
  · intro name _ own
    rw [Headers.getAll_erase, if_neg own, getAll_endToEnd]

-- The credential is put in when what the caller nominated is gone already.
theorem fronted_some (headers : Headers) (token : String) (value : Http.Octets)
    (shown : Http.fieldText? ("Bearer " ++ token) = some value) :
    Fronted headers (some token)
      (((endToEnd headers).erase "host").insert "authorization" value) := by
  obtain ⟨-, host, others⟩ := fronted_none headers
  constructor
  · rw [Headers.getAll_insert, if_pos rfl, fieldText_value _ value shown]
    exact .instead token
  · rw [Headers.getAll_insert, if_neg (by decide), host]
  · intro name other own
    rw [Headers.getAll_insert, if_neg other, others name other own]

theorem forwardedHeaders_fronted (incoming : Http.Incoming) (credential : Option String)
    (headers : Headers) (built : forwardedHeaders incoming credential = .ok headers) :
    ∃ front, headers = addressed incoming.peer front ∧
      Fronted incoming.headers credential front := by
  cases credential with
  | none =>
      rw [forwardedHeaders_none] at built
      cases built
      exact ⟨_, rfl, fronted_none incoming.headers⟩
  | some token =>
      obtain ⟨value, shown, rfl⟩ := (forwardedHeaders_some incoming token headers).mp built
      exact ⟨_, rfl, fronted_some incoming.headers token value shown⟩

theorem forwardedHeaders_rewritten (incoming : Http.Incoming) (credential : Option String)
    (headers : Headers) (built : forwardedHeaders incoming credential = .ok headers) :
    Rewritten incoming.headers credential headers := by
  obtain ⟨front, rfl, fronted⟩ := forwardedHeaders_fronted incoming credential headers built
  constructor
  · rw [getAll_addressed _ _ _ (by decide)]
    exact fronted.authorization
  · rw [getAll_addressed _ _ _ (by decide), fronted.host]
  · intro name other foreign
    simp only [ownFields, List.mem_cons, not_or] at foreign
    rw [getAll_addressed _ _ _ foreign.2.2.2.1, fronted.others name other foreign.2.1]

/-! ## Both sides of the gate -/

theorem outgoing_userless (target : Http.Target) (incoming : Http.Incoming) (credential : Option String)
    (formed : target.WellFormed) (nobody : target.Userless) (sent : Http.Outgoing) :
    outgoing target incoming credential = .ok sent ↔
      forwardedHeaders incoming credential = .ok sent.headers ∧ incoming.body.length ≤ maxBody ∧
      Url.parse target.render = .ok sent.url ∧ sent.url.hostText.isEmpty = false ∧
      sent.method = incoming.method ∧ sent.body = incoming.body := by
  rw [outgoing_iff]
  constructor
  · rintro ⟨headers, bare, fields, fits, read, rfl⟩
    obtain ⟨url, parsed, hosted, rfl⟩ := (ofText_iff _ _ _).mp read
    have userless := formed.url_userless nobody url parsed
    rw [userless.bare, userless.userInfo]
    exact ⟨fields, fits, parsed, hosted, rfl, rfl⟩
  · rintro ⟨fields, fits, parsed, hosted, method, body⟩
    have userless := formed.url_userless nobody sent.url parsed
    refine ⟨sent.headers, _, fields, fits, (ofText_iff _ _ _).mpr ⟨sent.url, parsed, hosted, rfl⟩, ?_⟩
    rw [userless.bare, userless.userInfo, ← method, ← body]
    rfl

/-- When a request that is let through is sent: a field can show its credential, and a client can ask at
its target. -/
structure Sendable (target : Http.Target) (credential : Option String) : Prop where
  shown : ∀ token, credential = some token →
    ∃ value, Http.fieldText? ("Bearer " ++ token) = some value
  askable : ∃ url, Url.parse target.render = .ok url ∧ url.hostText.isEmpty = false ∧
    Http.Outgoing.isAskable url = true

theorem forwardedHeaders_of_shown (incoming : Http.Incoming) (credential : Option String)
    (shown : ∀ token, credential = some token →
      ∃ value, Http.fieldText? ("Bearer " ++ token) = some value) :
    ∃ headers, forwardedHeaders incoming credential = .ok headers := by
  cases credential with
  | none => exact ⟨_, forwardedHeaders_none incoming⟩
  | some token =>
      obtain ⟨value, field⟩ := shown token rfl
      exact ⟨_, (forwardedHeaders_some incoming token _).mpr ⟨value, field, rfl⟩⟩

theorem shown_of_forwardedHeaders (incoming : Http.Incoming) (credential : Option String)
    (headers : Headers) (built : forwardedHeaders incoming credential = .ok headers) :
    ∀ token, credential = some token →
      ∃ value, Http.fieldText? ("Bearer " ++ token) = some value := by
  rintro token rfl
  obtain ⟨value, field, -⟩ := (forwardedHeaders_some incoming token headers).mp built
  exact ⟨value, field⟩

theorem sendable_iff (target : Http.Target) (incoming : Http.Incoming) (credential : Option String)
    (formed : target.WellFormed) (nobody : target.Userless) (fits : incoming.body.length ≤ maxBody) :
    Sendable target credential ↔ ∃ request, outgoing target incoming credential = .ok request ∧
      Http.Outgoing.isAskable request.url = true := by
  constructor
  · rintro ⟨shown, url, parsed, hosted, askable⟩
    obtain ⟨headers, fields⟩ := forwardedHeaders_of_shown incoming credential shown
    refine ⟨⟨incoming.method, url, headers, incoming.body⟩, ?_, askable⟩
    exact (outgoing_userless target incoming credential formed nobody _).mpr
      ⟨fields, fits, parsed, hosted, rfl, rfl⟩
  · rintro ⟨request, built, askable⟩
    obtain ⟨fields, -, parsed, hosted, -, -⟩ :=
      (outgoing_userless target incoming credential formed nobody request).mp built
    exact ⟨shown_of_forwardedHeaders incoming credential _ fields, _, parsed, hosted, askable⟩

/-- A request and its response on both sides of the gate. -/
structure Relay (target : Http.Target) (incoming : Http.Incoming) (credential : Option String)
    (exchange : Exchange) (response : Http.Response) : Prop where
  url : Url.parse target.render = .ok exchange.request.url
  method : exchange.request.method = incoming.method
  body : exchange.request.body = incoming.body
  fields : Rewritten incoming.headers credential exchange.request.headers
  back : ∀ reply, exchange.reply = some reply →
    response.status = reply.status ∧ response.body = reply.body ∧
      response.headers = reply.headers.filter fun field => ¬ ConnectionScoped reply.headers field.1

theorem rewritten_completed (headers : Headers) (credential : Option String) (request : Http.Outgoing)
    (rewritten : Rewritten headers credential request.headers) :
    Rewritten headers credential request.completed.headers := by
  obtain ⟨authorization, host, others⟩ := rewritten
  constructor
  · rwa [request.getAll_completed _ (by decide)]
  · rwa [request.getAll_completed _ (by decide)]
  · intro name other foreign
    have plain : name ≠ "accept" := by
      rintro rfl
      exact foreign (by decide)
    rw [request.getAll_completed name plain, others name other foreign]

theorem returned_headers (reply : Http.Response) :
    (returned reply).headers =
      reply.headers.filter fun field => ¬ ConnectionScoped reply.headers field.1 := by
  apply List.filter_congr
  intro field _
  by_cases gone : ConnectionScoped reply.headers field.1
  · simp [gone, (isConnectionScoped_iff reply.headers field.1).mpr gone]
  · simp [gone, mt (isConnectionScoped_iff reply.headers field.1).mp gone]

theorem relay_of_relayed (target : Http.Target) (incoming : Http.Incoming) (credential : Option String)
    (formed : target.WellFormed) (nobody : target.Userless) (fits : incoming.body.length ≤ maxBody)
    (seen : List Exchange) (response : Http.Response)
    (relayed : Relayed target incoming credential seen response) :
    (Sendable target credential ∧
        ∃ exchange, seen = [exchange] ∧ Relay target incoming credential exchange response) ∨
      (¬ Sendable target credential ∧ seen = []) := by
  have sendable := sendable_iff target incoming credential formed nobody fits
  cases relayed with
  | unfit denial failed =>
      refine .inr ⟨fun goes => ?_, rfl⟩
      obtain ⟨request, built, -⟩ := sendable.mp goes
      cases failed.symm.trans built
  | fit request built seen answer asked =>
      obtain ⟨fields, -, parsed, -, method, body⟩ :=
        (outgoing_userless target incoming credential formed nobody request).mp built
      have rewritten := rewritten_completed _ _ request (forwardedHeaders_rewritten _ _ _ fields)
      obtain ⟨sameMethod, sameUrl, sameBody⟩ := request.completed_rest
      cases asked with
      | unaskable other =>
          refine .inr ⟨fun goes => ?_, rfl⟩
          obtain ⟨again, same, askable⟩ := sendable.mp goes
          cases built.symm.trans same
          cases other.symm.trans askable
      | unanswered askable =>
          refine .inl ⟨sendable.mpr ⟨request, built, askable⟩, _, rfl, ?_⟩
          exact ⟨sameUrl ▸ parsed, sameMethod.trans method, sameBody.trans body, rewritten, nofun⟩
      | answered askable reply =>
          refine .inl ⟨sendable.mpr ⟨request, built, askable⟩, _, rfl, ?_⟩
          refine ⟨sameUrl ▸ parsed, sameMethod.trans method, sameBody.trans body, rewritten, ?_⟩
          rintro _ ⟨⟩
          exact ⟨rfl, rfl, returned_headers reply⟩

/-- A request that is let through is sent once, if it can be sent. It keeps method and body; its
credential is the one that stands for the caller, or else the caller's own; what was for one connection
only is gone, and all values of every other field stay in their order. The response is the backend's,
without what was for one connection only. -/
theorem relayed_exactly {σ : Type} (env : Environment σ) (target : Http.Target)
    (incoming : Http.Incoming) (credential : Option String) (s : σ) (formed : target.WellFormed)
    (nobody : target.Userless) (fits : incoming.body.length ≤ maxBody) :
    ∃ response after seen,
      (roundTrip env target incoming (some (.allowed credential))).run s = .ok (response, after) ∧
      (∀ log, (roundTrip env.observed target incoming (some (.allowed credential))).run (s, log) =
        .ok (response, (after, log ++ seen))) ∧
      (Sendable target credential →
        ∃ exchange, seen = [exchange] ∧ Relay target incoming credential exchange response) ∧
      (¬ Sendable target credential → seen = []) := by
  obtain ⟨response, after, seen, relayed, plain, observed⟩ :=
    roundTrip_observed env target incoming credential s
  refine ⟨response, after, seen, plain, observed, ?_⟩
  rcases relay_of_relayed target incoming credential formed nobody fits seen response relayed
    with ⟨goes, relay⟩ | ⟨stays, nothing⟩
  · exact ⟨fun _ => relay, fun stays => absurd goes stays⟩
  · exact ⟨fun goes => absurd goes stays, fun _ => nothing⟩

/-- A backend that answers everything, with a field for its own connection. -/
def answering : Environment Unit :=
  { silent with
    exchange := fun _ _ =>
      (some ⟨200, [("connection", Utf8.encode "x-hop".toList), ("x-hop", [1]), ("x-end", [2])], [3]⟩, ()) }

def backTarget : Http.Target := .absolute "http".toList "[::1]".toList "/api/x".toList none

/-- A caller who wants the credential taken out again, and to be believed without it. -/
def intrusiveRequest : Http.Incoming :=
  ⟨.post, backTarget,
    [("connection", Utf8.encode "Authorization, x-mine".toList), ("authorization", [0x61]),
      ("x-mine", [4]), ("x-end", [0xFF]), ("authorization", [0x62]), ("x-end", [5])], none, [6]⟩

theorem relayed_exactly_intrusive :
    backTarget.WellFormed ∧ backTarget.Userless ∧ intrusiveRequest.body.length ≤ maxBody ∧
      ∃ response after exchange,
        (roundTrip answering backTarget intrusiveRequest (some (.allowed (some "c")))).run () =
          .ok (response, after) ∧
        Relay backTarget intrusiveRequest (some "c") exchange response ∧
        exchange.request.headers.getAll "authorization" = [Utf8.encode "Bearer c".toList] ∧
        exchange.request.headers.getAll "x-mine" = [] ∧
        exchange.request.headers.getAll "x-end" = [[0xFF], [5]] := by
  have formed : backTarget.WellFormed :=
    .absolute _ _ _ none (.inl rfl) (by decide) (by decide) (.inr rfl) ⟨by decide, by decide⟩
  have nobody : backTarget.Userless := by
    rintro _ ⟨⟩
    decide
  have goes : Sendable backTarget (some "c") :=
    ⟨fun token same => by cases same; exact ⟨_, rfl⟩, _, rfl, rfl, by decide +kernel⟩
  obtain ⟨response, after, seen, plain, -, sent, -⟩ :=
    relayed_exactly answering backTarget intrusiveRequest (some "c") () formed nobody (by decide)
  obtain ⟨exchange, -, relay⟩ := sent goes
  refine ⟨formed, nobody, by decide, response, after, exchange, plain, relay, ?_, ?_, ?_⟩
  · exact relay.fields.authorization.of_credential
  · rw [relay.fields.others "x-mine" (by decide) (by decide), if_pos (by decide +kernel)]
  · rw [relay.fields.others "x-end" (by decide) (by decide), if_neg (by decide +kernel)]
    rfl

end Proxy

end AccessGate
