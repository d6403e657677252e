import AccessGate.Proofs.Http.TargetQuery
import AccessGate.Proofs.JudgedUrl
import AccessGate.Proofs.Request
import AccessGate.Proofs.Url.Unended

/-!
The text that rules are matched against has nothing of a query in it, however a request came in, and no
query makes a difference to it.
-/

namespace AccessGate

open Http (Target Headers)

namespace Request

/-- There is no query in the text that rules are matched against, and no fragment. -/
def Unqueried (request : Request) : Prop := '?' ∉ request.matchUrl ∧ '#' ∉ request.matchUrl

/-! ## Two queries -/

theorem ofHttp_matchUrl (method : Http.Method) (target : Target) (headers : Headers)
    (peer : Option Net.SocketAddress) :
    (ofHttp method target headers peer).map matchUrl =
      (authorityOf target headers).bind fun authority =>
        match Url.parse (urlText (schemeOf target headers) authority target) with
        | .ok url => .ok (url.scheme ++ "://".toList ++ authority ++ url.path)
        | .error e => .error (.badRequest ("malformed request url: " ++ e.message)) := by
  unfold ofHttp urlOf
  cases authorityOf target headers with
  | error denial => rfl
  | ok authority =>
      have text : schemeOf target headers ++ "://".toList ++ authority ++
          target.pathAndQuery?.getD ['/'] = urlText (schemeOf target headers) authority target := by
        simp [urlText, Target.tail]
      simp only [text, Except.bind]
      cases Url.parse (urlText (schemeOf target headers) authority target) with
      | error e => rfl
      | ok url => rfl

theorem matchUrl_beside (method : Http.Method) (path one other : List Char) (headers : Headers)
    (peer : Option Net.SocketAddress) (target target' : Target)
    (first : Target.parse (path ++ '?' :: one) = .ok target)
    (second : Target.parse (path ++ '?' :: other) = .ok target') :
    (ofHttp method target headers peer).map matchUrl =
      (ofHttp method target' headers peer).map matchUrl := by
  rcases Target.parse_parting path one other target target' first second with
    rfl | ⟨form, place, a, b, queried, rfl, rfl⟩
  · rfl
  · have solid := (Target.query_chars _ (Target.parse_wellFormed _ _ first) a (queried.query place _)).1
    have solid' := (Target.query_chars _ (Target.parse_wellFormed _ _ second) b (queried.query place _)).1
    obtain ⟨schemed, named⟩ := queried.front place (some a) (some b)
    rw [ofHttp_matchUrl, ofHttp_matchUrl, authorityOf_same _ _ headers named,
      schemeOf_same _ _ headers schemed]
    congr 1
    funext authority
    unfold urlText
    rw [queried.tail, queried.tail, ← List.append_assoc, ← List.append_assoc, ← List.append_assoc,
      ← List.append_assoc]
    rcases Url.parse_beside (_ ++ place) a b solid solid' with
      ⟨e, failed, failed'⟩ | ⟨url, url', read, read', scheme, below⟩
    · rw [failed, failed']
    · rw [read, read']
      simp only [scheme, below]

/-! ## No query -/

theorem unqueried_of_parts (request : Request) (url : request.url.Unended)
    (authority : ∀ c ∈ request.authority, Url.endsPath c = false) : request.Unqueried := by
  have unended : ∀ c ∈ request.matchUrl, Url.endsPath c = false := by
    intro c member
    rcases List.mem_append.mp member with front | below
    · rcases List.mem_append.mp front with schemed | named
      · rcases List.mem_append.mp schemed with scheme | slashes
        · exact url.scheme c scheme
        · exact Text.each_of_all "://".toList (Url.endsPath · = false) (by decide) c slashes
      · exact authority c named
    · exact url.path c below
  exact ⟨fun mark => absurd (unended '?' mark) (by decide),
    fun mark => absurd (unended '#' mark) (by decide)⟩

theorem ofHttp_unqueried (method : Http.Method) (text : List Char) (target : Target)
    (headers : Headers) (peer : Option Net.SocketAddress) (request : Request)
    (received : Target.parse text = .ok target)
    (read : ofHttp method target headers peer = .ok request) : request.Unqueried := by
  obtain ⟨addressed, parsed⟩ := ofHttp_ok method target headers peer request read
  have within := authorityOf_within target headers _ (Target.parse_wellFormed text target received) addressed
  exact request.unqueried_of_parts (Url.unended_of_parse _ request.url parsed)
    (Target.unqueried_of_within _ within)

theorem rawAuthority_unended (text authority : List Char)
    (read : rawAuthority? text = some authority) : ∀ c ∈ authority, Url.endsPath c = false := by
  unfold rawAuthority? at read
  split at read
  · rename_i target parsed
    obtain ⟨name, named, rfl⟩ := Option.map_eq_some_iff.mp read
    have within := (Target.parse_wellFormed text target parsed).authority_within name named
    exact Target.unqueried_of_within _ (Http.Authority.normal_within name within)
  · cases read

end Request

theorem JudgeQuery.request_unqueried (query : JudgeQuery) (incoming : Http.Incoming)
    (request : Request) (accepted : query.request incoming = .ok request) : request.Unqueried := by
  obtain ⟨parsed, authority⟩ := query.request_url incoming request accepted
  have url := Url.unended_of_parse _ request.url parsed
  refine request.unqueried_of_parts url ?_
  rw [authority]
  cases raw : Request.rawAuthority? query.url.toList with
  | none => exact url.authority
  | some name => exact Request.rawAuthority_unended _ name raw

theorem Judge.innerRequest_unqueried (incoming : Http.Incoming) (request : Request)
    (accepted : innerRequest incoming = .ok request) : request.Unqueried := by
  unfold innerRequest innerTarget at accepted
  cases read : Target.parse (innerText incoming.target) with
  | error e =>
      rw [read] at accepted
      cases accepted
  | ok target =>
      rw [read] at accepted
      exact Request.ofHttp_unqueried _ _ target _ _ request read accepted

/-- Queries have no part in the choice of a rule. Two of them behind one path lead to the same text to match
rules against, or to the same denial, whatever the headers are; and in no such text is there a query or a
fragment, be the request received, described by somebody else or judged itself. -/
theorem matchUrl_unqueried :
    (∀ method path one other target target' headers peer,
      Target.parse (path ++ '?' :: one) = .ok target → Target.parse (path ++ '?' :: other) = .ok target' →
      (Request.ofHttp method target headers peer).map Request.matchUrl =
        (Request.ofHttp method target' headers peer).map Request.matchUrl) ∧
    (∀ method text target headers peer request, Target.parse text = .ok target →
      Request.ofHttp method target headers peer = .ok request → request.Unqueried) ∧
    (∀ (query : JudgeQuery) incoming request, query.request incoming = .ok request →
      request.Unqueried) ∧
    ∀ incoming request, Judge.innerRequest incoming = .ok request → request.Unqueried := by
  refine ⟨?_, ?_, ?_, ?_⟩
  · intro method path one other target target' headers peer
    exact Request.matchUrl_beside method path one other headers peer target target'
  · exact Request.ofHttp_unqueried
  · exact JudgeQuery.request_unqueried
  · exact Judge.innerRequest_unqueried

/-- Headers that put a query of their own in front of the authority. -/
def queriedHeaders : Headers :=
  [("host", Utf8.encode "[::1]".toList), ("x-forwarded-proto", Utf8.encode "http://[::1]/x?".toList)]

theorem matchUrl_unqueried_forwarded :
    ∃ one other request,
      Target.parse ("/a".toList ++ '?' :: "b".toList) = .ok one ∧
      Target.parse ("/a".toList ++ '?' :: "c#d".toList) = .ok other ∧
      Request.ofHttp .get one queriedHeaders none = .ok request ∧
      request.matchUrl = "http://[::1]/x".toList ∧
      (Request.ofHttp .get other queriedHeaders none).map Request.matchUrl = .ok request.matchUrl ∧
      request.Unqueried := by
  obtain ⟨beside, received, -, -⟩ := matchUrl_unqueried
  have first : Target.parse ("/a".toList ++ '?' :: "b".toList) =
      .ok (.origin "/a".toList (some "b".toList)) := rfl
  have second : Target.parse ("/a".toList ++ '?' :: "c#d".toList) =
      .ok (.origin "/a".toList (some "c".toList)) := rfl
  obtain ⟨request, read, text⟩ : ∃ request,
      Request.ofHttp .get (.origin "/a".toList (some "b".toList)) queriedHeaders none = .ok request ∧
        request.matchUrl = "http://[::1]/x".toList := ⟨_, rfl, by decide +kernel⟩
  have same := beside .get "/a".toList _ _ _ _ queriedHeaders none first second
  rw [read] at same
  exact ⟨_, _, request, first, second, read, text, same.symm, received _ _ _ _ _ request first read⟩

end AccessGate
