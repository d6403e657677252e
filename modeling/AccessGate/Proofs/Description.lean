import AccessGate.Proofs.Alike
import AccessGate.Proofs.Http.HostField
import AccessGate.Proofs.Json.Records
import AccessGate.Proofs.Request
import AccessGate.Proofs.Vouching

/-!
Calls that describe a request. Who knows what a balancer handed on to the proxy can describe it to the
judge, and gets the decision that the proxy came to.
-/

namespace AccessGate

open Http (Target)
open Http.Authority (IsHost PortSuffix HostField)
open Text (lower)

variable {σ : Type}

/-- A request as a balancer hands it on: the target is a path with a query, and headers tell the scheme
and the host that the caller named. -/
structure Http.Incoming.Relayed (incoming : Http.Incoming) (scheme host suffix text : List Char)
    (port : Option Nat) : Prop where
  token : Http.isToken incoming.method.name.toList = true
  web : Url.IsWeb scheme
  named : IsHost host
  ported : PortSuffix suffix port
  rooted : text.head? = some '/'
  targeted : Target.parse text = .ok incoming.target
  small : Utf8.size (scheme ++ "://".toList ++ (host ++ suffix ++ text)) ≤ Target.maxLength
  hosted : Request.header? incoming.headers "host" = some (host ++ suffix)
  forwarded : Request.header? incoming.headers "x-forwarded-proto" = some scheme

namespace Http.Incoming.Relayed

variable {incoming : Http.Incoming} {scheme host suffix text : List Char} {port : Option Nat}
  {request : Request}

theorem known_scheme (relayed : incoming.Relayed scheme host suffix text port) :
    Target.IsScheme scheme := by
  rcases relayed.web with http | https
  · exact .inl http
  · exact .inr (.inl https)

theorem scheme_read (relayed : incoming.Relayed scheme host suffix text port) :
    Request.schemeOf incoming.target incoming.headers = scheme := by
  unfold Request.schemeOf
  rw [relayed.forwarded]
  rcases relayed.web with rfl | rfl
  · rfl
  · rfl

theorem target_parts (relayed : incoming.Relayed scheme host suffix text port) :
    ∃ path query fragment, incoming.target = .origin path query ∧
      Target.pathAndQuery text = .ok (path, query) ∧
      text = path ++ Target.queryText query ++ fragment ∧
      (∀ c, fragment.head? = some c → c = '#') ∧ path.head? = some '/' := by
  obtain ⟨rest, rfl⟩ := List.head?_eq_some_iff.mp relayed.rooted
  obtain ⟨-, path, query, read, origin⟩ := Target.rooted_of_parse rest _ relayed.targeted
  obtain ⟨fragment, parts, mark⟩ := Target.pathAndQuery_parts _ _ _ read
  refine ⟨path, query, fragment, origin, read, parts, mark, ?_⟩
  rw [(Target.pathAndQuery_ok _ _ _ read).1]
  rfl

theorem tail_rooted (relayed : incoming.Relayed scheme host suffix text port) :
    incoming.target.tail.head? = some '/' := by
  obtain ⟨path, query, -, origin, -, -, -, first⟩ := relayed.target_parts
  obtain ⟨rest, rfl⟩ := List.head?_eq_some_iff.mp first
  rw [origin]
  rfl

theorem written_parts (relayed : incoming.Relayed scheme host suffix text port)
    (within : (host ++ suffix).all Http.Authority.isWithin = true) :
    ∃ fragment, text = incoming.target.tail ++ fragment ∧
      (∀ c, fragment.head? = some c → c = '#') ∧
      (scheme ++ "://".toList ++ (host ++ suffix ++ incoming.target.tail)).all Url.isSolid = true := by
  obtain ⟨path, query, fragment, origin, split, parts, mark, -⟩ := relayed.target_parts
  have tail : incoming.target.tail = path ++ Target.queryText query := by
    rw [origin]
    rfl
  have clean := (Target.pathAndQuery_ok _ _ _ split).2
  have name := Http.Authority.solid_of_within (host ++ suffix) within
  refine ⟨fragment, by rw [tail]; exact parts, mark, ?_⟩
  rw [List.all_append, List.all_append, List.all_append,
    Request.scheme_solid scheme relayed.known_scheme, name, tail, Target.clean_solid path query clean]
  rfl

theorem host_field (relayed : incoming.Relayed scheme host suffix text port)
    (accepted : Request.ofHttp incoming.method incoming.target incoming.headers incoming.peer =
      .ok request) :
    HostField host suffix port ∧ request.authority = Http.Authority.normal (host ++ suffix) := by
  have addressed := (Request.ofHttp_ok _ _ _ _ _ accepted).1
  unfold Request.authorityOf at addressed
  rw [relayed.hosted] at addressed
  dsimp only at addressed
  split at addressed
  · rename_i name read
    have field : HostField host suffix port := ⟨relayed.named, relayed.ported, name, read⟩
    cases field.parsed.symm.trans read
    exact ⟨field, (Except.ok.inj addressed).symm⟩
  · cases addressed

theorem url_read (relayed : incoming.Relayed scheme host suffix text port)
    (accepted : Request.ofHttp incoming.method incoming.target incoming.headers incoming.peer =
      .ok request) :
    ∃ asked, Url.Host.parse host = .ok asked ∧
      request.url = Url.placed scheme ⟨⟨[], []⟩, asked, port⟩ incoming.target.tail := by
  obtain ⟨field, authority⟩ := relayed.host_field accepted
  have within := Http.Authority.normal_within _ field.within
  have formed := Target.parse_wellFormed _ _ relayed.targeted
  have read := (Request.ofHttp_ok _ _ _ _ _ accepted).2
  have named : Http.Authority.normal (host ++ suffix) ≠ [] := by
    rw [field.normal_eq]
    simp [lower, (field.host.hostText field.text_within).named]
  rw [relayed.scheme_read, authority,
    Request.parse_ownScheme scheme _ _ relayed.known_scheme within formed,
    Url.parseSolid_web scheme _ _ relayed.web (Http.Authority.inside_of_within _ within) named
      relayed.tail_rooted, field.placeIn_normal, field.placeIn_eq] at read
  cases asked : Url.Host.parse host with
  | error e =>
      rw [asked] at read
      cases read
  | ok found =>
      rw [asked] at read
      exact ⟨found, rfl, (Except.ok.inj read).symm⟩

theorem url_written (relayed : incoming.Relayed scheme host suffix text port)
    (accepted : Request.ofHttp incoming.method incoming.target incoming.headers incoming.peer =
      .ok request) :
    ∃ url, Url.parse (scheme ++ "://".toList ++ (host ++ suffix ++ text)) = .ok url ∧
      url.scheme = request.url.scheme ∧ url.path = request.url.path := by
  obtain ⟨field, -⟩ := relayed.host_field accepted
  obtain ⟨asked, found, read⟩ := relayed.url_read accepted
  obtain ⟨fragment, parts, mark, solid⟩ := relayed.written_parts field.within
  obtain ⟨kept, cleaned, ended⟩ := Url.cleaned_fragment _ fragment solid (by simp) mark
  have rooted : (incoming.target.tail ++ kept).head? = some '/' := by
    obtain ⟨rest, shape⟩ := List.head?_eq_some_iff.mp relayed.tail_rooted
    rw [shape]
    rfl
  have behind : ∀ rest, scheme ++ "://".toList ++ (host ++ suffix ++ (incoming.target.tail ++ rest)) =
      scheme ++ "://".toList ++ (host ++ suffix ++ incoming.target.tail) ++ rest := by
    simp
  have parsed : Url.parse (scheme ++ "://".toList ++ (host ++ suffix ++ text)) =
      .ok (Url.placed scheme ⟨⟨[], []⟩, asked, port⟩ (incoming.target.tail ++ kept)) := by
    rw [parts, behind, Url.parse_eq, cleaned, ← behind,
      Url.parseSolid_web scheme _ _ relayed.web (Http.Authority.inside_of_within _ field.within)
        field.nonempty rooted, field.placeIn_eq, found]
    rfl
  refine ⟨_, parsed, ?_, ?_⟩
  · rw [read]
    rfl
  · have same : (Url.splitPath (incoming.target.tail ++ kept)).1 =
        (Url.splitPath incoming.target.tail).1 := by
      apply Text.takeWhile_append_stop
      intro c marked
      rw [ended c marked]
      rfl
    rw [read]
    change Url.Path.render (Url.hostedPath false _ (Url.splitPath _).1) =
      Url.Path.render (Url.hostedPath false _ (Url.splitPath _).1)
    rw [same]

theorem authority_written (relayed : incoming.Relayed scheme host suffix text port)
    (accepted : Request.ofHttp incoming.method incoming.target incoming.headers incoming.peer =
      .ok request) :
    Request.rawAuthority? (scheme ++ "://".toList ++ (host ++ suffix ++ text)) =
      some request.authority := by
  obtain ⟨field, authority⟩ := relayed.host_field accepted
  obtain ⟨path, query, -, -, split, -⟩ := relayed.target_parts
  have ends : ∀ c, text.head? = some c → Http.Authority.endsAuthority c = true := by
    intro c first
    cases relayed.rooted.symm.trans first
    rfl
  have placed := Http.Authority.ahead_append _ _ text field.parsed ends
  have shape : scheme ++ "://".toList ++ (host ++ suffix ++ text) =
      scheme ++ ':' :: '/' :: '/' :: (host ++ suffix ++ text) := by
    simp
  have small := relayed.small
  rw [shape] at small ⊢
  unfold Request.rawAuthority?
  rw [Target.parse_parts scheme _ text path query relayed.known_scheme field.nonempty placed split small,
    authority]
  rfl

end Http.Incoming.Relayed

namespace JudgeQuery

/-- What describes a request to the judge: method, URL, token and the address of the caller. -/
def describing (method : String) (url : List Char) (token : Option String) (ip : String) :
    JudgeQuery :=
  ⟨method, String.ofList url, token, [(Evaluation.remoteIpKey, .string ip)]⟩

theorem request_describing {incoming : Http.Incoming} {scheme host suffix text : List Char}
    {port : Option Nat} {request : Request} (call : Http.Incoming) (method ip : String)
    (relayed : incoming.Relayed scheme host suffix text port)
    (accepted : Request.ofHttp incoming.method incoming.target incoming.headers incoming.peer =
      .ok request)
    (known : request.remoteIp = some ip)
    (named : lower method.toList = lower incoming.method.name.toList) :
    ∃ judged, (describing method (scheme ++ "://".toList ++ (host ++ suffix ++ text))
        request.token ip).request call = .ok judged ∧
      judged.Alike request ∧ judged.authority = request.authority ∧
      judged.remoteIp = request.remoteIp := by
  obtain ⟨url, parsed, same_scheme, same_path⟩ := relayed.url_written accepted
  obtain ⟨meant, read, alike⟩ :=
    Http.Method.ofAnyCase_alike method incoming.method relayed.token named
  obtain ⟨method_eq, token_eq, context_eq⟩ := Request.ofHttp_fields _ _ _ _ _ accepted
  have shown : ∀ token, request.token = some token → token ≠ "" := by
    intro token some_
    exact Request.tokenOf_ne_empty _ _ token (token_eq ▸ some_)
  refine ⟨⟨meant, url, request.authority, request.token, some ip,
    [(Evaluation.remoteIpKey, .string ip)]⟩, ?_, ?_, rfl, known.symm⟩
  · unfold JudgeQuery.request describing
    simp only [read, String.toList_ofList, parsed, relayed.authority_written accepted]
    cases token : request.token with
    | none => rfl
    | some token_ =>
        simp only [Request.withToken, if_neg (shown token_ token)]
        rfl
  · constructor
    · rw [method_eq]
      exact alike
    · simp only [Request.matchUrl, same_scheme, same_path]
    · rfl
    · simp only [Evaluation.contextOf, known, context_eq]
      simp [Json.Members.insert]

/-! ## The body of a call -/

/-- A query as the body of a call tells it. -/
def toJson (query : JudgeQuery) : Json.Value :=
  .object [("method", .string query.method), ("url", .string query.url),
    ("token", .ofOption query.token), ("context", .object query.context)]

theorem byValue_reader : Json.Reader.ByValue reader := by
  apply Json.Reader.byValue_record
  simp only [List.forall_mem_cons, List.not_mem_nil, false_implies, implies_true, and_true]
  exact ⟨Json.Reader.byValue_string, Json.Reader.byValue_string,
    Json.Reader.byValue_maybe _ Json.Reader.byValue_string, Json.Reader.byValue_members⟩

theorem decode_printed (node : Json.Node) (query : JudgeQuery)
    (denotes : node.Denotes query.toJson) : decode node = .ok query := by
  obtain ⟨method, url, token, context⟩ := query
  have given : reader (.given (toJson ⟨method, url, token, context⟩)) =
      .ok (toJson ⟨method, url, token, context⟩) := by
    refine Json.record_full _ _ _ (by decide) ?_
    refine .cons ⟨rfl, rfl⟩ (.cons ⟨rfl, rfl⟩ (.cons ⟨rfl, ?_⟩ (.cons ⟨rfl, rfl⟩ .nil)))
    cases token with
    | none => rfl
    | some token => rfl
  have whole := byValue_reader.ok (.inr denotes) given
  unfold decode
  rw [whole]
  cases token with
  | none => rfl
  | some token => rfl

-- The context stands two levels deep.
theorem readsBack_toJson (query : JudgeQuery) (distinct : query.context.names.Nodup)
    (back : ∀ member ∈ query.context, Json.ReadsBack 2 member.2) :
    Json.ReadsBack 0 query.toJson := by
  apply Json.readsBack_object 0 _ (by decide)
  · change ["method", "url", "token", "context"].Nodup
    decide
  · intro member inside
    simp only [List.mem_cons, List.not_mem_nil, or_false] at inside
    rcases inside with rfl | rfl | rfl | rfl
    · exact Json.readsBack_string 1 query.method
    · exact Json.readsBack_string 1 query.url
    · cases query.token with
      | none => exact Json.readsBack_null 1
      | some token => exact Json.readsBack_string 1 token
    · exact Json.readsBack_object 1 query.context (by decide) distinct back

theorem queryOf_printed (query : JudgeQuery) (call : Http.Incoming)
    (back : Json.ReadsBack 0 query.toJson)
    (typed : Http.MediaType.isJson call.headers = true) (small : call.body.length ≤ Judge.maxBody)
    (told : call.body = Utf8.encode query.toJson.chars) : Judge.queryOf call = .ok query := by
  obtain ⟨node, tree, denotes⟩ := Json.ofChars_printed _ back
  unfold Judge.queryOf
  rw [typed, if_neg Bool.false_ne_true.symm, if_neg (Nat.not_lt.mpr small), told,
    Utf8.decode_encode]
  simp only [tree, Json.Document.read, decode_printed node query denotes]
  rfl

end JudgeQuery

/-- The description agrees with the proxy. Who describes a request that the proxy has accepted, in its
own words and with the name of the method in any case, is understood, and has it judged under the same
URL, token, address and context; the authority keeps the port as it was written, on both entrances.
Both then decide in the same way and answer with the same decision. -/
theorem Judge.described_agrees (arbiter : Arbiter σ) (backend : Url) (incoming call : Http.Incoming)
    (request : Request) (scheme host suffix text : List Char) (port : Option Nat)
    (method ip : String) (relayed : incoming.Relayed scheme host suffix text port)
    (accepted : Request.ofHttp incoming.method incoming.target incoming.headers incoming.peer =
      .ok request)
    (known : request.remoteIp = some ip)
    (named : lower method.toList = lower incoming.method.name.toList) :
    let query := JudgeQuery.describing method (scheme ++ "://".toList ++ (host ++ suffix ++ text))
      request.token ip
    (Http.MediaType.isJson call.headers = true → call.body.length ≤ maxBody →
      call.body = Utf8.encode query.toJson.chars → queryOf call = .ok query) ∧
    ∃ judged, query.request call = .ok judged ∧ judged.matchUrl = request.matchUrl ∧
      judged.authority = lower host ++ Url.Hosted.portText port ∧
      request.authority = lower host ++ Url.Hosted.portText port ∧
      judged.token = request.token ∧ judged.remoteIp = request.remoteIp ∧
      Evaluation.contextOf judged = Evaluation.contextOf request ∧
      (∀ (client : PolicyClient σ) (rules : RuleSet),
        evaluate client rules judged = evaluate client rules request) ∧
      (queryOf call = .ok query →
        described arbiter call = do return answer (← arbiter.decide request)) ∧
      Proxy.direct arbiter backend incoming =
        do return Proxy.stamped backend incoming.target (← arbiter.decide request) := by
  intro query
  obtain ⟨field, authority⟩ := relayed.host_field accepted
  obtain ⟨judged, read, alike, same_authority, same_ip⟩ :=
    JudgeQuery.request_describing call method ip relayed accepted known named
  have written := authority.trans field.normal_eq
  refine ⟨?_, judged, read, alike.matchUrl, same_authority.trans written, written, alike.token,
    same_ip, alike.context, fun client rules => alike.same_evaluation client rules, ?_, ?_⟩
  · apply JudgeQuery.queryOf_printed query call
    apply JudgeQuery.readsBack_toJson query (List.pairwise_singleton _ _)
    intro member inside
    rw [List.mem_singleton.mp inside]
    exact Json.readsBack_string 2 ip
  · intro told
    have judged_ : query.request call = .ok judged := read
    unfold described
    rw [told]
    simp only [verdictOn_eq, judged_, Arbiter.decideOn, alike.same_decision]
  · rw [Proxy.direct_eq, accepted]
    rfl

/-- A request that a balancer hands on, to an address in upper case and the port of its scheme. -/
def relayedRequest : Http.Incoming :=
  ⟨.get, .origin "/x".toList none,
    [("host", Utf8.encode "[::A]:0443".toList), ("x-forwarded-proto", Utf8.encode "https".toList),
      ("x-real-ip", Utf8.encode "10.0.0.1".toList),
      ("authorization", Utf8.encode "Bearer t".toList)], none, []⟩

theorem relayedRequest_relayed : relayedRequest.Relayed "https".toList "[::A]".toList
    ":0443".toList "/x".toList (some 443) where
  token := by decide
  web := .inr rfl
  named := .bracketed "::A".toList (Text.each_of_all _ _ (by decide))
  ported := .written "0443".toList (by decide) (Text.each_of_all _ _ rfl) (by decide)
  rooted := rfl
  targeted := rfl
  small := by decide +kernel
  hosted := by decide +kernel
  forwarded := by decide +kernel

/-- What describes it, with the method in lower case. -/
def relayedQuery : JudgeQuery :=
  .describing "get" "https://[::A]:0443/x".toList (some "t") "10.0.0.1"

def describingCall : Http.Incoming :=
  ⟨.post, .origin "/judge".toList none, [("content-type", Utf8.encode "application/json".toList)],
    none, Utf8.encode relayedQuery.toJson.chars⟩

theorem Judge.described_agrees_shown : ∃ request judged token held,
    Request.ofHttp .get relayedRequest.target relayedRequest.headers none = .ok request ∧
    queryOf describingCall = .ok relayedQuery ∧
    relayedQuery.request describingCall = .ok judged ∧ judged.matchUrl = request.matchUrl ∧
    judged.authority = "[::a]:443".toList ∧ request.authority = "[::a]:443".toList ∧
    ((described publicArbiter describingCall).run (.ofSource (.agreed agreedKey))).run () =
      .ok ((answer (.ok (Session.authenticated "alice" "app", some token)), held), ()) := by
  have read : ((Request.ofHttp .get relayedRequest.target relayedRequest.headers none).toOption.map
      fun request => (request.token, request.remoteIp)) = some (some "t", some "10.0.0.1") := by
    decide +kernel
  cases found : Request.ofHttp .get relayedRequest.target relayedRequest.headers none with
  | error denial =>
      rw [found] at read
      cases read
  | ok request =>
      rw [found] at read
      have both := Option.some.inj read
      have token : request.token = some "t" := congrArg Prod.fst both
      have ip : request.remoteIp = some "10.0.0.1" := congrArg Prod.snd both
      have agrees := described_agrees publicArbiter Proxy.openGate.backend relayedRequest
        describingCall request _ _ _ _ _ "get" "10.0.0.1" relayedRequest_relayed found ip rfl
      rw [token] at agrees
      obtain ⟨told, judged, described, same, authority, kept, -, -, -, -, answered, -⟩ := agrees
      have understood : queryOf describingCall = .ok relayedQuery :=
        told (by decide +kernel) (by decide +kernel) rfl
      obtain ⟨credential, held, -, decided⟩ := publicArbiter_decides request "t" token
      refine ⟨request, judged, credential, held, rfl, understood, described, same, authority, kept, ?_⟩
      rw [answered understood]
      exact (KeyAction.run_bind_ok _ _ _ () _).mpr ⟨_, _, _, decided, rfl⟩

end AccessGate
