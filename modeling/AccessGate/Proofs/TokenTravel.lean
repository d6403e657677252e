import AccessGate.Proofs.Http.TargetQuery
import AccessGate.Proofs.Upstream
import AccessGate.Proofs.Vouching

/-!
Whether the backend can tell apart two requests that show different tokens. The credential takes the place
of a header, but what a query shows stands in the URL that is sent.
-/

namespace AccessGate.Proxy

open Http (Target Headers)

variable {σ : Type}

/-- Two requests that are the same but for where a token is shown: in one header, or in the query. -/
inductive ShownApart : Http.Incoming → Http.Incoming → Prop where
  | header (method : Http.Method) (target : Target) (one other : Headers)
      (peer : Option Net.SocketAddress) (body : Http.Octets)
      (same : one.erase "authorization" = other.erase "authorization") :
      ShownApart ⟨method, target, one, peer, body⟩ ⟨method, target, other, peer, body⟩
  | query (method : Http.Method) (form : List Char → Option (List Char) → Target)
      (queried : Target.Queried form) (path one other : List Char) (headers : Headers)
      (peer : Option Net.SocketAddress) (body : Http.Octets) :
      ShownApart ⟨method, form path (some one), headers, peer, body⟩
        ⟨method, form path (some other), headers, peer, body⟩

/-! ## The header -/

section

variable {one other : Headers}

-- The header of the token lists no fields of a connection.
theorem listed_alike (same : one.erase "authorization" = other.erase "authorization") :
    listed one = listed other := by
  have kept : ∀ headers : Headers, headers.getAll "connection" =
      (headers.erase "authorization").getAll "connection" := by
    intro headers
    rw [Headers.getAll_erase, if_neg (by decide)]
  unfold listed
  rw [kept one, kept other, same]

theorem endToEnd_alike (same : one.erase "authorization" = other.erase "authorization") :
    ((endToEnd one).erase "host").erase "authorization" =
      ((endToEnd other).erase "host").erase "authorization" := by
  have moved : ∀ headers : Headers, ((endToEnd headers).erase "host").erase "authorization" =
      (headers.erase "authorization").filter fun field =>
        field.1 != "host" && !(hopByHop.contains field.1 || (listed headers).contains field.1) := by
    intro headers
    simp only [endToEnd, isConnectionScoped, Headers.erase, List.filter_filter]
    congr 1
    funext field
    ac_rfl
  rw [moved one, moved other, listed_alike same, same]

theorem forwardedHeaders_alike (method : Http.Method) (first second : Target)
    (peer : Option Net.SocketAddress) (body : Http.Octets) (token : String)
    (same : one.erase "authorization" = other.erase "authorization") :
    forwardedHeaders ⟨method, first, one, peer, body⟩ (some token) =
      forwardedHeaders ⟨method, second, other, peer, body⟩ (some token) := by
  have placed : ∀ value, ((endToEnd one).erase "host").insert "authorization" value =
      ((endToEnd other).erase "host").insert "authorization" value := by
    intro value
    unfold Headers.insert
    rw [endToEnd_alike same]
  unfold forwardedHeaders
  simp only [placed]

end

/-! ## The query -/

section

variable {backend : Url} {form : List Char → Option (List Char) → Target} {path one other : List Char}
  {first second : Target}

theorem backendText_query (queried : Target.Queried form) (query : List Char) :
    backendText backend (form path (some query)) =
      Text.dropEnd '/' backend.render ++ path ++ '?' :: query := by
  have tail := queried.tail path query
  unfold backendText
  rw [← Target.tail, tail, List.append_assoc]

theorem backendTarget_fragment (marked : '#' ∈ backend.render) (a b : Target)
    (placed : backendTarget backend a = .ok first) (placed' : backendTarget backend b = .ok second) :
    first = second := by
  have kept := (Text.mem_dropEnd '/' '#' backend.render (by decide)).mpr marked
  obtain ⟨front, rest, shape⟩ := List.append_of_mem kept
  have read := backendTarget_read backend a first placed
  have read' := backendTarget_read backend b second placed'
  unfold backendText at read read'
  rw [shape, List.append_assoc, List.cons_append] at read read'
  exact Target.parse_fragment front _ _ first second read read'

theorem backendTarget_query (unmarked : '#' ∉ backend.render) (queried : Target.Queried form)
    (formed : (form path (some one)).WellFormed) (formed' : (form path (some other)).WellFormed)
    (placed : backendTarget backend (form path (some one)) = .ok first)
    (placed' : backendTarget backend (form path (some other)) = .ok second) :
    ∃ front more, (∀ c ∈ front, Url.endsPath c = false) ∧
      first.render = front ++ '?' :: (more ++ one) ∧ second.render = front ++ '?' :: (more ++ other) ∧
      ((more ++ one).all Url.isSolid = true ∧ '#' ∉ more ++ one) ∧
      (more ++ other).all Url.isSolid = true ∧ '#' ∉ more ++ other := by
  have read := backendTarget_read backend _ first placed
  have read' := backendTarget_read backend _ second placed'
  have made := Target.parse_wellFormed _ _ read
  have made' := Target.parse_wellFormed _ _ read'
  rw [backendText_query queried] at read read'
  have free : '#' ∉ Text.dropEnd '/' backend.render ++ path := by
    rw [List.mem_append, Text.mem_dropEnd '/' '#' _ (by decide), not_or]
    exact ⟨unmarked, queried.unmarked path one formed⟩
  have clean := (Target.query_chars _ formed one (queried.query path _)).2
  have clean' := (Target.query_chars _ formed' other (queried.query path _)).2
  rcases Target.parse_query _ free with never | ⟨shape, kept, more, placing, always⟩
  · exact absurd read (never one first)
  · cases always one first clean read
    cases always other second clean' read'
    obtain ⟨front, unended, rendered⟩ := placing.render kept (more ++ one) made
    exact ⟨front, more, unended, rendered _, rendered _,
      Target.query_chars _ made _ (placing.query kept _),
      Target.query_chars _ made' _ (placing.query kept _)⟩

end

theorem token_alike {escaped : Char → Bool} (harmless : Percent.Harmless escaped)
    (method : Http.Method) {form : List Char → Option (List Char) → Target}
    (queried : Target.Queried form) (path one other : List Char) (headers : Headers)
    (peer : Option Net.SocketAddress) (request request' : Request)
    (formed : (form path (some one)).WellFormed) (formed' : (form path (some other)).WellFormed)
    (same : Percent.encode escaped one = Percent.encode escaped other)
    (read : Request.ofHttp method (form path (some one)) headers peer = .ok request)
    (read' : Request.ofHttp method (form path (some other)) headers peer = .ok request') :
    request.token = request'.token := by
  obtain ⟨addressed, parsed⟩ := Request.ofHttp_ok _ _ _ _ _ read
  obtain ⟨addressed', parsed'⟩ := Request.ofHttp_ok _ _ _ _ _ read'
  have clean := Target.query_chars _ formed one (queried.query path _)
  have clean' := Target.query_chars _ formed' other (queried.query path _)
  obtain ⟨schemed, named⟩ := queried.front path (some one) (some other)
  have addressing := Request.authorityOf_same _ _ headers named
  have scheme := Request.schemeOf_same _ _ headers schemed
  have authority : request.authority = request'.authority :=
    Except.ok.inj (addressed.symm.trans (addressing.trans addressed'))
  unfold Request.urlText at parsed parsed'
  rw [queried.tail, ← List.append_assoc, ← List.append_assoc] at parsed parsed'
  rw [scheme, authority] at parsed
  have pairs := Url.queryPairs_same harmless _ one other request.url request'.url
    ⟨clean.1, clean'.1⟩ ⟨clean.2, clean'.2⟩ same parsed parsed'
  rw [(Request.ofHttp_fields _ _ _ _ _ read).2.1, (Request.ofHttp_fields _ _ _ _ _ read').2.1]
  unfold Request.tokenOf Request.queryToken?
  rw [pairs]

/-! ## What is sent -/

theorem ofText_query (method : Http.Method) (front one other : List Char) (sent : Http.Outgoing)
    (unended : ∀ c ∈ front, Url.endsPath c = false)
    (clean : one.all Url.isSolid = true ∧ '#' ∉ one)
    (clean' : other.all Url.isSolid = true ∧ '#' ∉ other)
    (built : Http.Outgoing.ofText method (String.ofList (front ++ '?' :: one)) = .ok sent) :
    let coded := Percent.encode (Url.escapedInQuery (Url.isSpecial sent.url.scheme))
    sent.url.query = some (coded one) ∧
      Http.Outgoing.ofText method (String.ofList (front ++ '?' :: other)) =
        .ok { sent with url := { sent.url with query := some (coded other) } } := by
  obtain ⟨found, parsed, hosted, rfl⟩ := (ofText_iff method _ sent).mp built
  rcases Url.parse_unended front unended with ⟨e, fails⟩ | ⟨url, always⟩
  · cases (fails one clean.1).symm.trans parsed
  · cases (always one clean.1 clean.2).symm.trans parsed
    exact ⟨rfl, (ofText_iff method _ _).mpr ⟨_, always other clean'.1 clean'.2, hosted, rfl⟩⟩

/-- What reaches the backend of two requests that show different tokens, under one credential. All but the
query of the URL is the same, and so is the query just when the requests differ in a header only, or when
the backend's URL has a fragment that hides it. -/
theorem sent_alike_iff (arbiter : Arbiter σ) (backend : Url) (one other : Http.Incoming)
    (keys held keys' held' : KeyManager) (s after s' after' : σ) (target target' : Target)
    (credential : String) (request request' : Request) (sent : Http.Outgoing)
    (apart : ShownApart one other) (formed : one.target.WellFormed) (formed' : other.target.WellFormed)
    (read : Request.ofHttp one.method one.target one.headers one.peer = .ok request)
    (read' : Request.ofHttp other.method other.target other.headers other.peer = .ok request')
    (distinct : request.token ≠ request'.token)
    (allowed : ((direct arbiter backend one).run keys).run s =
      .ok (((target, .allowed (some credential)), held), after))
    (allowed' : ((direct arbiter backend other).run keys').run s' =
      .ok (((target', .allowed (some credential)), held'), after'))
    (built : outgoing target one (some credential) = .ok sent) :
    ∃ query, outgoing target' other (some credential) =
        .ok { sent with url := { sent.url with query := query } } ∧
      (query = sent.url.query ↔ one.target = other.target ∨ '#' ∈ backend.render) := by
  obtain ⟨-, -, -, -, placed⟩ := direct_allowed arbiter backend one keys held s after target _ allowed
  obtain ⟨-, -, -, -, placed'⟩ :=
    direct_allowed arbiter backend other keys' held' s' after' target' _ allowed'
  cases apart with
  | header method source fields fields' peer body same =>
      cases placed.symm.trans placed'
      obtain ⟨headers, bare, shown, small, text, rfl⟩ := (outgoing_iff _ _ _ sent).mp built
      rw [forwardedHeaders_alike method source source peer body credential same] at shown
      exact ⟨bare.url.query, (outgoing_iff _ _ _ _).mpr ⟨headers, bare, shown, small, text, rfl⟩,
        iff_of_true rfl (.inl rfl)⟩
  | query method form queried path shown shown' headers peer body =>
      by_cases marked : '#' ∈ backend.render
      · cases backendTarget_fragment marked _ _ placed placed'
        exact ⟨sent.url.query, built, iff_of_true rfl (.inr marked)⟩
      · obtain ⟨front, more, unended, first, second, clean, clean'⟩ :=
          backendTarget_query marked queried formed formed' placed placed'
        obtain ⟨fields, bare, forwarded, small, text, rfl⟩ := (outgoing_iff _ _ _ sent).mp built
        rw [first] at text
        obtain ⟨asked, again⟩ := ofText_query method front _ _ bare unended clean clean' text
        rw [← second] at again
        refine ⟨_, (outgoing_iff _ _ _ _).mpr ⟨fields, _, forwarded, small, again, rfl⟩,
          iff_of_false ?_ (not_or.mpr ⟨?_, marked⟩)⟩
        -- Queries that are sent alike were encoded alike, and then the tokens were the same.
        · intro same
          have coded := Option.some.inj (same.trans asked)
          simp only [Percent.encode, List.flatMap_append, List.append_cancel_left_eq] at coded
          exact distinct (token_alike (Url.harmless_query _) method queried path shown shown' headers peer
            request request' formed formed' coded.symm read read')
        · intro same
          dsimp only at same read read'
          rw [same] at read
          cases read.symm.trans read'
          exact distinct rfl

/-! ## Two calls of one caller -/

/-- The state of the keys before the first credential. -/
def agreedKeys : KeyManager := .ofSource (.agreed agreedKey)

theorem publicArbiter_directs :
    ∃ (credential : Token) (held : KeyManager), ∀ (incoming : Http.Incoming) (request : Request)
      (token : String) (target : Target),
      Request.ofHttp incoming.method incoming.target incoming.headers incoming.peer = .ok request →
      request.token = some token → backendTarget openGate.backend incoming.target = .ok target →
      ((direct publicArbiter openGate.backend incoming).run agreedKeys).run () =
        .ok (((target, .allowed (some credential.render)), held), ()) := by
  obtain ⟨credential, held, -, decides⟩ := publicArbiter_credential
  refine ⟨credential, held, fun incoming request token target read shown placed => ?_⟩
  have decided : ((Proxy.credential publicArbiter (Request.ofHttp incoming.method incoming.target
      incoming.headers incoming.peer)).run agreedKeys).run () =
        .ok ((.ok (some credential.render), held), ()) := by
    rw [read]
    exact (KeyAction.run_bind_ok _ _ agreedKeys () _).mpr ⟨_, _, _, decides request token shown, rfl⟩
  have ran := direct_of_credential _ openGate.backend incoming _ _ () () _ decided
  simpa only [placed] using ran

theorem outgoing_of_token (target : Target) (incoming : Http.Incoming) (credential : Token)
    (bare : Http.Outgoing) (small : incoming.body.length ≤ maxBody)
    (text : Http.Outgoing.ofText incoming.method (String.ofList target.render) = .ok bare) :
    ∃ sent, outgoing target incoming (some credential.render) = .ok sent ∧ sent.url = bare.url := by
  obtain ⟨headers, shown⟩ := forwardedHeaders_of_token incoming (some credential)
  exact ⟨_, (outgoing_iff _ _ _ _).mpr ⟨headers, bare, shown, small, text, rfl⟩, rfl⟩

/-- A call that shows a token in its header. -/
def headerCall (value : String) : Http.Incoming :=
  ⟨.get, .origin "/x".toList none,
    [("host", Utf8.encode "[::1]".toList), ("authorization", Utf8.encode value.toList)], none, []⟩

theorem sent_alike_headers :
    ∃ request request' target target' held held' credential sent,
      Request.ofHttp .get (headerCall "Bearer t").target (headerCall "Bearer t").headers none =
        .ok request ∧ request.token = some "t" ∧
      Request.ofHttp .get (headerCall "Bearer u").target (headerCall "Bearer u").headers none =
        .ok request' ∧ request'.token = some "u" ∧
      ((direct publicArbiter openGate.backend (headerCall "Bearer t")).run agreedKeys).run () =
        .ok (((target, .allowed (some credential)), held), ()) ∧
      ((direct publicArbiter openGate.backend (headerCall "Bearer u")).run agreedKeys).run () =
        .ok (((target', .allowed (some credential)), held'), ()) ∧
      outgoing target (headerCall "Bearer t") (some credential) = .ok sent ∧
      outgoing target' (headerCall "Bearer u") (some credential) = .ok sent := by
  obtain ⟨request, read, shown⟩ : ∃ request, Request.ofHttp .get (headerCall "Bearer t").target
      (headerCall "Bearer t").headers none = .ok request ∧ request.token = some "t" :=
    ⟨_, rfl, by decide +kernel⟩
  obtain ⟨request', read', shown'⟩ : ∃ request, Request.ofHttp .get (headerCall "Bearer u").target
      (headerCall "Bearer u").headers none = .ok request ∧ request.token = some "u" :=
    ⟨_, rfl, by decide +kernel⟩
  obtain ⟨target, bare, placed, text⟩ : ∃ target bare,
      backendTarget openGate.backend (headerCall "Bearer t").target = .ok target ∧
        Http.Outgoing.ofText .get (String.ofList target.render) = .ok bare := ⟨_, _, rfl, rfl⟩
  obtain ⟨credential, held, directs⟩ := publicArbiter_directs
  obtain ⟨sent, built, -⟩ :=
    outgoing_of_token target (headerCall "Bearer t") credential bare (by decide) text
  have allowed := directs (headerCall "Bearer t") request "t" target read shown placed
  have allowed' := directs (headerCall "Bearer u") request' "u" target read' shown' placed
  have formed : (headerCall "Bearer t").target.WellFormed :=
    .origin "x".toList none ⟨by decide, by decide⟩
  have apart : ShownApart (headerCall "Bearer t") (headerCall "Bearer u") :=
    .header .get _ _ _ none [] (by decide +kernel)
  obtain ⟨query, alike, same⟩ := sent_alike_iff publicArbiter openGate.backend _ _ agreedKeys held
    agreedKeys held () () () () target target credential.render request request' sent
    apart formed formed read read' (by rw [shown, shown']; decide) allowed
    allowed' built
  rw [same.mpr (.inl rfl)] at alike
  exact ⟨request, request', target, target, held, held, _, sent, read, shown, read', shown', allowed,
    allowed', built, alike⟩

/-- A call that shows a token in its query. -/
def queryCall (token : String) : Http.Incoming :=
  ⟨.get, .origin "/x".toList (some ("access_token=" ++ token).toList),
    [("host", Utf8.encode "[::1]".toList)], none, []⟩

theorem token_sent :
    ∃ request request' target target' held held' credential sent sent',
      ShownApart (queryCall "a") (queryCall "b") ∧
      Request.ofHttp .get (queryCall "a").target (queryCall "a").headers none = .ok request ∧
      request.token = some "a" ∧
      Request.ofHttp .get (queryCall "b").target (queryCall "b").headers none = .ok request' ∧
      request'.token = some "b" ∧
      ((direct publicArbiter openGate.backend (queryCall "a")).run agreedKeys).run () =
        .ok (((target, .allowed (some credential)), held), ()) ∧
      ((direct publicArbiter openGate.backend (queryCall "b")).run agreedKeys).run () =
        .ok (((target', .allowed (some credential)), held'), ()) ∧
      outgoing target (queryCall "a") (some credential) = .ok sent ∧
      outgoing target' (queryCall "b") (some credential) = .ok sent' ∧
      sent.url.render = "http://[::1]/api/x?access_token=a".toList ∧
      sent'.url.render = "http://[::1]/api/x?access_token=b".toList := by
  obtain ⟨request, read, shown⟩ : ∃ request, Request.ofHttp .get (queryCall "a").target
      (queryCall "a").headers none = .ok request ∧ request.token = some "a" :=
    ⟨_, rfl, by decide +kernel⟩
  obtain ⟨request', read', shown'⟩ : ∃ request, Request.ofHttp .get (queryCall "b").target
      (queryCall "b").headers none = .ok request ∧ request.token = some "b" :=
    ⟨_, rfl, by decide +kernel⟩
  obtain ⟨target, bare, placed, text, url⟩ : ∃ target bare,
      backendTarget openGate.backend (queryCall "a").target = .ok target ∧
        Http.Outgoing.ofText .get (String.ofList target.render) = .ok bare ∧
        bare.url.render = "http://[::1]/api/x?access_token=a".toList :=
    ⟨_, _, rfl, rfl, by decide +kernel⟩
  obtain ⟨target', bare', placed', text', url'⟩ : ∃ target bare,
      backendTarget openGate.backend (queryCall "b").target = .ok target ∧
        Http.Outgoing.ofText .get (String.ofList target.render) = .ok bare ∧
        bare.url.render = "http://[::1]/api/x?access_token=b".toList :=
    ⟨_, _, rfl, rfl, by decide +kernel⟩
  obtain ⟨credential, held, directs⟩ := publicArbiter_directs
  obtain ⟨sent, built, same⟩ :=
    outgoing_of_token target (queryCall "a") credential bare (by decide) text
  obtain ⟨sent', built', same'⟩ :=
    outgoing_of_token target' (queryCall "b") credential bare' (by decide) text'
  have apart : ShownApart (queryCall "a") (queryCall "b") :=
    .query .get _ .origin "/x".toList "access_token=a".toList "access_token=b".toList _ none []
  exact ⟨request, request', target, target', held, held, credential.render, sent, sent', apart, read,
    shown, read', shown', directs (queryCall "a") request "a" target read shown placed,
    directs (queryCall "b") request' "b" target' read' shown' placed', built, built',
    by rw [same, url], by rw [same', url']⟩

end AccessGate.Proxy
