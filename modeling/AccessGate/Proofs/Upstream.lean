import AccessGate.Proofs.Http.WebTarget
import AccessGate.Proofs.OpenGate
import AccessGate.Proofs.Request
import AccessGate.Proofs.Url.Starred

/-!
Where allowed requests go. The path of a request stands behind the path of the backend, and the URL that
this makes is read once more before anything is sent.
-/

namespace AccessGate.Proxy

open Http (Target)
open Url (Hosted Host)

/-- The segments of the backend's path that requests are placed behind. -/
def prefixOf (backend : Url) : List (List Char) :=
  match backend.urlPath with
  | .segments list => Url.Path.trimmed list
  | .text _ => []

/-- The path that is sent for a request, behind the segments of the backend. -/
def sentPath (segments : List (List Char)) (target : Target) : List Char :=
  match target.tail with
  | '/' :: rest =>
      Url.Path.render (Url.Path.kept segments (Url.Path.climbs (Url.splitPath rest).1)) ++
        target.canonicalPath
  | _ => Target.rooted (Url.Path.render segments)

section

variable {backend : Url} {host : Host} {list : List (List Char)}

theorem prefixOf_settled (hosted : Hosted backend host list) :
    prefixOf backend = Url.Path.trimmed list ∧
      ∀ segment ∈ prefixOf backend, Url.Path.Settled segment := by
  have same : prefixOf backend = Url.Path.trimmed list := by
    unfold prefixOf
    rw [hosted.path]
  refine ⟨same, ?_⟩
  intro segment member
  rw [same] at member
  exact hosted.settled segment (Url.Path.trimmed_subset list member)

/-! ## The text that is sent -/

-- Encoding has left nothing in the segments that ends a path.
theorem unended_of_settled (segments : List (List Char))
    (settled : ∀ segment ∈ segments, Url.Path.Settled segment) :
    ∀ c ∈ Url.Path.render segments, Url.endsPath c = false := by
  intro c member
  obtain ⟨segment, inside, there⟩ := List.mem_flatMap.mp member
  rcases List.mem_cons.mp there with rfl | inner
  · rfl
  · have coded := (settled segment inside).unescaped
    rw [← coded] at inner
    cases ends : Url.endsPath c with
    | false => rfl
    | true =>
        simp only [Url.endsPath, Bool.or_eq_true, beq_iff_eq] at ends
        rcases ends with rfl | rfl
        · exact absurd inner (Percent.not_mem_encode _ segment '?' (by decide) (by decide))
        · exact absurd inner (Percent.not_mem_encode _ segment '#' (by decide) (by decide))

theorem backendText_eq (hosted : Hosted backend host list) (unqueried : backend.query = none)
    (unmarked : backend.fragment = none) (target : Target) :
    backendText backend target = backend.scheme ++ "://".toList ++
      (backend.front ++ (Url.Path.render (prefixOf backend) ++ target.tail)) := by
  unfold backendText
  rw [hosted.dropEnd_render unqueried unmarked, (prefixOf_settled hosted).1]
  simp [Target.tail]

theorem splitPath_append (front rest : List Char) (unended : ∀ c ∈ front, Url.endsPath c = false) :
    (Url.splitPath (front ++ rest)).1 = front ++ (Url.splitPath rest).1 := by
  have open_ : ∀ c ∈ front, (!Url.endsPath c) = true := by
    intro c member
    simp [unended c member]
  simp only [Url.splitPath]
  exact List.takeWhile_append_of_pos open_

theorem rooted_render (segments : List (List Char)) (some_ : segments ≠ []) (rest : List Char) :
    Target.rooted (Url.Path.render segments ++ rest) = Url.Path.render segments ++ rest := by
  cases segments with
  | nil => exact absurd rfl some_
  | cons first more => rfl

-- What follows the prefix is read with it, up to the mark of the query.
theorem sentPath_eq (segments : List (List Char)) (target : Target)
    (settled : ∀ segment ∈ segments, Url.Path.Settled segment)
    (ahead : target.tail.head? = some '/' ∨ target.tail.head? = some '?') :
    Url.Path.render (Url.hostedPath false true
      (Url.splitPath (Target.rooted (Url.Path.render segments ++ target.tail))).1) =
        sentPath segments target := by
  have unended := unended_of_settled segments settled
  unfold sentPath
  rcases ahead with slash | mark
  · obtain ⟨rest, shape⟩ := List.head?_eq_some_iff.mp slash
    have slashed : Target.rooted (Url.Path.render segments ++ '/' :: rest) =
        Url.Path.render segments ++ '/' :: rest := by
      cases segments with
      | nil => rfl
      | cons first more => rfl
    have own : target.canonicalPath =
        Url.Path.render (Url.Path.segments false true (Url.splitPath rest).1) := by
      unfold Http.Target.canonicalPath
      rw [shape]
      rfl
    have cut : (Url.splitPath ('/' :: rest)).1 = '/' :: (Url.splitPath rest).1 := rfl
    rw [shape, slashed, splitPath_append _ _ unended, cut, Url.Path.hostedPath_behind _ _ settled,
      Url.Path.render_append, ← own]
    rfl
  · obtain ⟨rest, shape⟩ := List.head?_eq_some_iff.mp mark
    rw [shape]
    cases segments with
    | nil => rfl
    | cons first more =>
        have cut : (Url.splitPath ('?' :: rest)).1 = [] := rfl
        rw [rooted_render _ (by simp), splitPath_append _ _ unended, cut, List.append_nil,
          Url.Path.hostedPath_render _ (by simp) fun segment member =>
            (settled segment member).within true]
        rfl

theorem backendTarget_read (backend : Url) (incoming target : Target)
    (placed : backendTarget backend incoming = .ok target) :
    Target.parse (backendText backend incoming) = .ok target := by
  unfold backendTarget at placed
  split at placed
  · rename_i found parsed
    cases placed
    exact parsed
  · cases placed

theorem unended_of_inside (a : List Char) (inside : Url.Inside true a) :
    ∀ c ∈ a, Http.Authority.endsAuthority c = false := by
  intro c member
  have within := inside c member
  simp only [Url.endsAuthority, Url.endsPath, Bool.true_and, Bool.or_eq_false_iff] at within
  simp [Http.Authority.endsAuthority, within.1.1, within.1.2.1, within.1.2.2]

theorem ofText_iff (method : Http.Method) (text : List Char) (sent : Http.Outgoing) :
    Http.Outgoing.ofText method (String.ofList text) = .ok sent ↔ ∃ url,
      Url.parse text = .ok url ∧ url.hostText.isEmpty = false ∧
      sent = ⟨method, { url with username := [], password := [] },
        if url.userInfo.isEmpty then [] else [("authorization", Http.Outgoing.basicValue url)], []⟩ := by
  unfold Http.Outgoing.ofText
  rw [String.toList_ofList]
  cases Url.parse text with
  | error e =>
      constructor
      · exact nofun
      · rintro ⟨_, never, -⟩
        cases never
  | ok url =>
      dsimp only
      cases hosted : url.hostText.isEmpty with
      | true =>
          rw [if_pos rfl]
          constructor
          · exact nofun
          · rintro ⟨_, same, named, -⟩
            cases same
            cases hosted.symm.trans named
      | false =>
          rw [if_neg Bool.false_ne_true]
          constructor
          · intro built
            cases built
            exact ⟨url, rfl, hosted, rfl⟩
          · rintro ⟨_, same, -, rfl⟩
            cases same
            rfl

theorem ofText_url (method : Http.Method) (text : List Char) (outgoing : Http.Outgoing)
    (built : Http.Outgoing.ofText method (String.ofList text) = .ok outgoing) :
    ∃ url, Url.parse text = .ok url ∧ outgoing.url = { url with username := [], password := [] } := by
  obtain ⟨url, parsed, -, rfl⟩ := (ofText_iff method text outgoing).mp built
  exact ⟨url, parsed, rfl⟩

/-- What is sent for a request that is placed behind the backend's path: the text of the backend up to
its path, and a path of its own. -/
theorem sent_text (hosted : Hosted backend host list) (unqueried : backend.query = none)
    (unmarked : backend.fragment = none) (incoming target : Target) (formed : incoming.WellFormed)
    (unstarred : incoming.tail ≠ ['*']) (placed : backendTarget backend incoming = .ok target) :
    target.WellFormed ∧ target.scheme? ≠ none ∧
      target.render = backend.scheme ++ "://".toList ++ (backend.front ++
        Target.rooted (Url.Path.render (prefixOf backend) ++ incoming.tail)) := by
  obtain ⟨ahead, free⟩ := (incoming.tail_cases formed).resolve_left unstarred
  have settled := (prefixOf_settled hosted).2
  have unended := unended_of_settled _ settled
  have inside := unended_of_inside _ hosted.front_inside
  have closes : ∀ c, (Url.Path.render (prefixOf backend) ++ incoming.tail).head? = some c →
      Http.Authority.endsAuthority c = true := by
    intro c first
    cases segments : prefixOf backend with
    | nil =>
        rw [segments] at first
        rcases ahead with slash | query
        · cases slash.symm.trans first
          rfl
        · cases query.symm.trans first
          rfl
    | cons segment more =>
        rw [segments] at first
        cases first
        rfl
  have unmarkedText : '#' ∉ Url.Path.render (prefixOf backend) ++ incoming.tail := by
    intro mark
    rcases List.mem_append.mp mark with before | behind
    · cases unended '#' before
    · exact free behind
  have read := backendTarget_read backend incoming target placed
  have formedTarget := Target.parse_wellFormed _ _ read
  rw [backendText_eq hosted unqueried unmarked] at read
  obtain ⟨path, query, split, rfl⟩ :=
    Target.parse_web _ _ _ target hosted.web inside closes hosted.front_ne_nil read
  refine ⟨formedTarget, by simp [Target.scheme?], ?_⟩
  exact Target.render_web _ _ _ path query unmarkedText split closes

theorem sent_url (hosted : Hosted backend host list) (unqueried : backend.query = none)
    (unmarked : backend.fragment = none) (method : Http.Method) (incoming target : Target)
    (outgoing : Http.Outgoing) (formed : incoming.WellFormed) (unstarred : incoming.tail ≠ ['*'])
    (placed : backendTarget backend incoming = .ok target)
    (built : Http.Outgoing.ofText method (String.ofList target.render) = .ok outgoing) :
    ∃ asked, Host.parse host.render = .ok asked ∧ outgoing.url.scheme = backend.scheme ∧
      outgoing.url.host = some asked ∧ outgoing.url.port = backend.port ∧
      outgoing.url.path = sentPath (prefixOf backend) incoming := by
  obtain ⟨ahead, -⟩ := (incoming.tail_cases formed).resolve_left unstarred
  obtain ⟨formedTarget, absolute_, text⟩ :=
    sent_text hosted unqueried unmarked incoming target formed unstarred placed
  have rooted : (Target.rooted (Url.Path.render (prefixOf backend) ++ incoming.tail)).head? =
      some '/' := by
    unfold Target.rooted
    split
    · rename_i slash
      exact slash
    · rfl
  obtain ⟨who, read⟩ := hosted.parseSolid_front _ rooted
  obtain ⟨url, parsed, sent⟩ := ofText_url method _ outgoing built
  rw [← text, ← target.parse_render formedTarget absolute_, parsed] at read
  cases asked : Host.parse host.render with
  | error e =>
      rw [asked] at read
      cases read
  | ok name =>
      rw [asked] at read
      cases read
      rw [sent]
      refine ⟨name, rfl, rfl, rfl, hosted.port_kept, ?_⟩
      rw [← sentPath_eq _ _ (prefixOf_settled hosted).2 ahead,
        ← (Url.isWeb_special _ hosted.web).1]
      rfl

-- Without a prefix the sign stands behind the host, and is read as a part of it.
theorem sent_starred_bare (hosted : Hosted backend host list) (unqueried : backend.query = none)
    (unmarked : backend.fragment = none) (incoming target : Target) (url : Url)
    (bare : prefixOf backend = []) (starred : incoming.tail = ['*'])
    (placed : backendTarget backend incoming = .ok target)
    (parsed : Url.parse target.render = .ok url) : url.host ≠ some host := by
  have read := backendTarget_read backend incoming target placed
  have formed := Target.parse_wellFormed _ _ read
  have text : backend.scheme ++ "://".toList ++ (backend.front ++ (Url.Path.render [] ++ ['*'])) =
      backend.scheme ++ "://".toList ++ (backend.front ++ ['*'] ++ []) := by
    simp [Url.Path.render]
  rw [backendText_eq hosted unqueried unmarked, starred, bare, text] at read
  have named : backend.front ++ ['*'] ≠ [] := by simp
  have inside : Url.Inside true (backend.front ++ ['*']) :=
    List.forall_mem_append.mpr ⟨hosted.front_inside, List.forall_mem_singleton.mpr rfl⟩
  have closes : ∀ c, ([] : List Char).head? = some c → Http.Authority.endsAuthority c = true := by
    intro c first
    cases first
  obtain ⟨path, query, split, rfl⟩ := Target.parse_web _ _ _ target hosted.web
    (unended_of_inside _ inside) closes named read
  have rendered := Target.render_web backend.scheme (backend.front ++ ['*']) [] path query
    List.not_mem_nil split closes
  rw [Target.parse_render _ formed (by simp [Target.scheme?]), rendered,
    Url.parseSolid_web backend.scheme _ (Target.rooted []) hosted.web inside named rfl] at parsed
  cases place : Url.placeIn true false (backend.front ++ ['*']) with
  | error e =>
      rw [place] at parsed
      cases parsed
  | ok pair =>
      rw [place] at parsed
      cases parsed
      intro alike
      exact Url.placeIn_starred backend host list _ _ hosted place (Option.some.inj alike)

-- Behind a prefix the sign goes on with its last segment.
theorem sent_starred_behind (hosted : Hosted backend host list) (unqueried : backend.query = none)
    (unmarked : backend.fragment = none) (incoming target : Target) (url : Url)
    (behind : prefixOf backend ≠ []) (starred : incoming.tail = ['*'])
    (placed : backendTarget backend incoming = .ok target)
    (parsed : Url.parse target.render = .ok url) :
    url.path = Text.dropEnd '/' backend.path ++ ['*'] := by
  obtain ⟨same, settled⟩ := prefixOf_settled hosted
  have read := backendTarget_read backend incoming target placed
  have formed := Target.parse_wellFormed _ _ read
  rw [backendText_eq hosted unqueried unmarked, starred] at read
  have slashed : ∀ rest, (Url.Path.render (prefixOf backend) ++ rest).head? = some '/' := by
    intro rest
    cases segments : prefixOf backend with
    | nil => exact absurd segments behind
    | cons first more => rfl
  have closes : ∀ c, (Url.Path.render (prefixOf backend) ++ ['*']).head? = some c →
      Http.Authority.endsAuthority c = true := by
    intro c head
    cases (slashed _).symm.trans head
    rfl
  have unended := unended_of_settled _ settled
  have unmarkedText : '#' ∉ Url.Path.render (prefixOf backend) ++ ['*'] :=
    List.not_mem_append (fun before => by cases unended '#' before) (by decide)
  obtain ⟨path, query, split, rfl⟩ := Target.parse_web _ _ _ target hosted.web
    (unended_of_inside _ hosted.front_inside) closes hosted.front_ne_nil read
  have rendered := Target.render_web backend.scheme backend.front _ path query unmarkedText
    split closes
  rw [rooted_render _ behind] at rendered
  obtain ⟨who, front⟩ := hosted.parseSolid_front _ (slashed ['*'])
  rw [Target.parse_render _ formed (by simp [Target.scheme?]), rendered, front] at parsed
  cases asked : Host.parse host.render with
  | error e =>
      rw [asked] at parsed
      cases parsed
  | ok name =>
      rw [asked] at parsed
      cases parsed
      have cut : (Url.splitPath (Url.Path.render (prefixOf backend) ++ ['*'])).1 =
          Url.Path.render (prefixOf backend) ++ ['*'] :=
        splitPath_append _ _ unended
      calc Url.Path.render (Url.hostedPath false (Url.isSpecial backend.scheme)
            (Url.splitPath (Url.Path.render (prefixOf backend) ++ ['*'])).1)
          = Url.Path.render (prefixOf backend) ++ ['*'] := by
            rw [(Url.isWeb_special _ hosted.web).1, cut, Url.hostedPath_starred _ behind settled]
        _ = Text.dropEnd '/' backend.path ++ ['*'] := by rw [hosted.dropEnd_path, ← same]

theorem sent_starred (hosted : Hosted backend host list) (unqueried : backend.query = none)
    (unmarked : backend.fragment = none) (method : Http.Method) (incoming target : Target)
    (outgoing : Http.Outgoing) (starred : incoming.tail = ['*'])
    (placed : backendTarget backend incoming = .ok target)
    (built : Http.Outgoing.ofText method (String.ofList target.render) = .ok outgoing) :
    outgoing.url.host ≠ some host ∨
      outgoing.url.path = Text.dropEnd '/' backend.path ++ ['*'] := by
  obtain ⟨url, parsed, sent⟩ := ofText_url method _ outgoing built
  rw [sent]
  by_cases bare : prefixOf backend = []
  · exact .inl (sent_starred_bare hosted unqueried unmarked incoming target url bare starred placed
      parsed)
  · exact .inr (sent_starred_behind hosted unqueried unmarked incoming target url bare starred placed
      parsed)

end

/-! ## Confinement -/

/-- What is sent goes to the backend, with the path that was judged behind the backend's own. -/
structure Confined (backend : Url) (request : Request) (sent : Url) : Prop where
  scheme : sent.scheme = backend.scheme
  host : sent.host = backend.host
  port : sent.port = backend.port
  path : sent.path = Text.dropEnd '/' backend.path ++ request.url.path

/-- The text of the backend's host is read as that host. -/
def ReadsBack (backend : Url) : Prop := (Host.parse backend.hostText).toOption = backend.host

/-- A target whose path takes nothing back from the segments that it is placed behind. -/
def StaysBelow (segments : List (List Char)) (target : Target) : Prop :=
  match target.tail with
  | '/' :: rest =>
      Url.Path.climbs (Url.splitPath rest).1 = 0 ∨ Url.Path.Fixed segments
  | '?' :: _ => segments = []
  | _ => False

theorem canonicalPath_query (target : Target) (rest : List Char) (shape : target.tail = '?' :: rest) :
    target.canonicalPath = ['/'] := by
  unfold Http.Target.canonicalPath
  rw [shape]
  rfl

-- The three forms of a tail once more: a star, a path, and a query without a path.
theorem staysBelow_iff (segments : List (List Char)) (target : Target) (formed : target.WellFormed) :
    target ≠ Target.asterisk ∧
        sentPath segments target = Url.Path.render segments ++ target.canonicalPath ↔
      StaysBelow segments target := by
  rw [ne_eq, ← Target.tail_asterisk target formed]
  rcases target.tail_cases formed with starred | ⟨slash | mark, -⟩
  · unfold StaysBelow
    rw [starred]
    simp
  · obtain ⟨rest, shape⟩ := List.head?_eq_some_iff.mp slash
    have unstarred : '/' :: rest ≠ ['*'] := by simp
    unfold sentPath StaysBelow
    rw [shape]
    simp only [unstarred, not_false_eq_true, true_and, List.append_cancel_right_eq]
    rw [Url.Path.render_kept_iff, Url.Path.kept_eq_iff]
  · obtain ⟨rest, shape⟩ := List.head?_eq_some_iff.mp mark
    have unstarred : '?' :: rest ≠ ['*'] := by simp
    have own := canonicalPath_query target rest shape
    unfold sentPath StaysBelow
    rw [shape, own]
    simp only [unstarred, not_false_eq_true, true_and]
    cases segments with
    | nil => simp [Url.Path.render, Target.rooted]
    | cons first more =>
        have rooted := rooted_render (first :: more) (by simp) []
        rw [List.append_nil] at rooted
        rw [rooted]
        simp

theorem outgoing_iff (target : Target) (incoming : Http.Incoming) (credential : Option String)
    (sent : Http.Outgoing) :
    outgoing target incoming credential = .ok sent ↔ ∃ headers bare,
      forwardedHeaders incoming credential = .ok headers ∧ incoming.body.length ≤ maxBody ∧
      Http.Outgoing.ofText incoming.method (String.ofList target.render) = .ok bare ∧
      sent = { bare.withHeaders headers with body := incoming.body } := by
  unfold outgoing
  cases fields : forwardedHeaders incoming credential with
  | error denial => simp [bind, Except.bind]
  | ok headers =>
      simp only [bind, Except.bind]
      by_cases large : incoming.body.length > maxBody
      · rw [if_pos large]
        constructor
        · exact nofun
        · rintro ⟨_, _, -, small, -⟩
          exact absurd small (Nat.not_le.mpr large)
      · rw [if_neg large]
        cases read : Http.Outgoing.ofText incoming.method (String.ofList target.render) with
        | error e =>
            constructor
            · exact nofun
            · rintro ⟨_, _, -, -, never, -⟩
              cases never
        | ok bare =>
            constructor
            · intro built
              cases built
              exact ⟨headers, bare, rfl, Nat.le_of_not_lt large, rfl, rfl⟩
            · rintro ⟨_, _, same, -, again, rfl⟩
              cases same
              cases again
              rfl

theorem outgoing_built (target : Target) (incoming : Http.Incoming) (credential : Option String)
    (sent : Http.Outgoing) (built : outgoing target incoming credential = .ok sent) :
    ∃ bare, Http.Outgoing.ofText incoming.method (String.ofList target.render) = .ok bare ∧
      sent.url = bare.url := by
  obtain ⟨headers, bare, -, -, read, rfl⟩ := (outgoing_iff target incoming credential sent).mp built
  exact ⟨bare, read, rfl⟩

theorem not_confined_starred {backend : Url} {host : Host} {list : List (List Char)}
    (hosted : Hosted backend host list) (unqueried : backend.query = none)
    (unmarked : backend.fragment = none) (method : Http.Method) (incoming target : Target)
    (outgoing : Http.Outgoing) (request : Request) (starred : incoming.tail = ['*'])
    (placed : backendTarget backend incoming = .ok target)
    (built : Http.Outgoing.ofText method (String.ofList target.render) = .ok outgoing)
    (rooted : request.url.path.head? = some '/') : ¬ Confined backend request outgoing.url := by
  intro confined
  rcases sent_starred hosted unqueried unmarked method incoming target outgoing starred placed built
    with other | path
  · exact other (confined.host.trans hosted.hosted)
  · have same := List.append_cancel_left (path.symm.trans confined.path)
    rw [← same] at rooted
    cases rooted

-- Of the parts only host and path can differ: the host when its text is read as another one, the path
-- when dot segments take away from the prefix.
theorem confined_iff {backend : Url} {host : Host} {list : List (List Char)}
    (hosted : Hosted backend host list) (unqueried : backend.query = none)
    (unmarked : backend.fragment = none) (method : Http.Method) (incoming target : Target)
    (outgoing : Http.Outgoing) (request : Request) (formed : incoming.WellFormed)
    (placed : backendTarget backend incoming = .ok target)
    (built : Http.Outgoing.ofText method (String.ofList target.render) = .ok outgoing)
    (rooted : incoming = Target.asterisk → request.url.path.head? = some '/') :
    Confined backend request outgoing.url ↔
      ReadsBack backend ∧ incoming ≠ Target.asterisk ∧
        sentPath (prefixOf backend) incoming =
          Text.dropEnd '/' backend.path ++ request.url.path := by
  have hostText : backend.hostText = host.render := by
    rw [Url.hostText, hosted.hosted]
    rfl
  by_cases starred : incoming = Target.asterisk
  · have signed := (Target.tail_asterisk _ formed).mpr starred
    constructor
    · intro confined
      exact absurd confined (not_confined_starred hosted unqueried unmarked _ incoming target outgoing
        request signed placed built (rooted starred))
    · rintro ⟨-, unstarred, -⟩
      exact absurd starred unstarred
  · have pathed := mt (Target.tail_asterisk _ formed).mp starred
    obtain ⟨asked, reads, scheme, name, port, path⟩ :=
      sent_url hosted unqueried unmarked _ incoming target outgoing formed pathed placed built
    constructor
    · intro confined
      refine ⟨?_, starred, path.symm.trans confined.path⟩
      rw [ReadsBack, hostText, reads, ← confined.host, name]
      rfl
    · rintro ⟨reads_back, -, below⟩
      refine ⟨scheme, ?_, port, path.trans below⟩
      rw [ReadsBack, hostText, reads] at reads_back
      rw [name]
      exact reads_back

theorem upstream_confined_iff {σ : Type} (arbiter : Arbiter σ) (text source : List Char)
    (backend : Url) (incoming : Http.Incoming) (keys held : KeyManager) (s after : σ)
    (target : Target) (token : Option String) (sent : Http.Outgoing)
    (known : Url.parse text = .ok backend) (web : Url.IsWeb backend.scheme)
    (unqueried : backend.query = none) (unmarked : backend.fragment = none)
    (read : Target.parse source = .ok incoming.target)
    (unforwarded : incoming.headers.get? "x-forwarded-proto" = none)
    (allowed : ((direct arbiter backend incoming).run keys).run s =
      .ok (((target, .allowed token), held), after))
    (built : outgoing target incoming token = .ok sent) :
    ∃ request decision,
      Request.ofHttp incoming.method incoming.target incoming.headers incoming.peer = .ok request ∧
      ((arbiter.decide request).run keys).run s = .ok ((.ok decision, held), after) ∧
      (Confined backend request sent.url ↔
        ReadsBack backend ∧ incoming.target ≠ Target.asterisk ∧
          sentPath (prefixOf backend) incoming.target =
            Text.dropEnd '/' backend.path ++ request.url.path) ∧
      (Url.reading? (Request.ownScheme incoming.target.scheme?) = some .web →
        request.authority ≠ [] →
        (Confined backend request sent.url ↔
          ReadsBack backend ∧ StaysBelow (prefixOf backend) incoming.target)) ∧
      (incoming.target ≠ Target.asterisk →
        sent.url.scheme = backend.scheme ∧ sent.url.port = backend.port ∧
          sent.url.host = (Host.parse backend.hostText).toOption) := by
  obtain ⟨host, list, hosted⟩ := Url.hosted_of_parse text backend known web
  obtain ⟨request, decision, accepted, decided, placed⟩ :=
    direct_allowed arbiter backend incoming keys held s after target token allowed
  obtain ⟨bare, ready, same⟩ := outgoing_built target incoming token sent built
  have formed := Target.parse_wellFormed _ _ read
  have parsed := Request.parse_unforwarded _ _ _ _ request formed unforwarded accepted
  have addressed := (Request.ofHttp_ok _ _ _ _ _ accepted).1
  have within := Request.authorityOf_within _ _ _ formed addressed
  have hostText : backend.hostText = host.render := by
    rw [Url.hostText, hosted.hosted]
    rfl
  have whole : Text.dropEnd '/' backend.path = Url.Path.render (prefixOf backend) := by
    rw [hosted.dropEnd_path, (prefixOf_settled hosted).1]
  have general := confined_iff hosted unqueried unmarked _ _ target bare request formed placed ready
    fun starred => Request.rooted_of_web _ _ request.url (by rw [starred]; decide) parsed
  rw [← same] at general
  refine ⟨request, decision, accepted, decided, general, ?_, ?_⟩
  · intro ordinary named
    have own := Request.path_of_web _ _ _ request.url ordinary named within parsed
    rw [general, own, whole, staysBelow_iff _ _ formed]
  · intro unstarred
    have pathed := mt (Target.tail_asterisk _ formed).mp unstarred
    obtain ⟨asked, reads, scheme, name, port, -⟩ :=
      sent_url hosted unqueried unmarked _ _ target bare formed pathed placed ready
    rw [same]
    refine ⟨scheme, port, ?_⟩
    rw [hostText, reads, name]
    rfl

def docsRequest : Http.Incoming := openRequest (.origin "/docs/../index".toList none) []

theorem upstream_confined_docs :
    Url.parse "http://[::1]/api/".toList = .ok openGate.backend ∧
      ∃ request target sent,
        ((direct (openGate.arbiter silent) openGate.backend docsRequest).run openGate.keys).run () =
          .ok (((target, .allowed none), openGate.keys), ()) ∧
        outgoing target docsRequest none = .ok sent ∧
        Confined openGate.backend request sent.url := by
  have known : Url.parse "http://[::1]/api/".toList = .ok openGate.backend := rfl
  have read : Target.parse "/docs/../index".toList = .ok docsRequest.target := rfl
  obtain ⟨request, accepted, named⟩ : ∃ request,
      Request.ofHttp .get docsRequest.target docsRequest.headers none = .ok request ∧
        request.authority = "[::1]".toList := ⟨_, rfl, rfl⟩
  obtain ⟨target, placed, sent, built⟩ : ∃ target,
      backendTarget openGate.backend docsRequest.target = .ok target ∧
        ∃ sent, outgoing target docsRequest none = .ok sent := ⟨_, rfl, _, rfl⟩
  have allowed := open_allows docsRequest request target accepted placed
  obtain ⟨judged, decision, again, -, -, ordinary, -⟩ :=
    upstream_confined_iff (openGate.arbiter silent) "http://[::1]/api/".toList
      "/docs/../index".toList openGate.backend docsRequest openGate.keys openGate.keys () () target
      none sent known (.inl rfl) rfl rfl read rfl allowed built
  cases again.symm.trans accepted
  have some_ : request.authority ≠ [] := by
    rw [named]
    decide
  refine ⟨known, request, target, sent, allowed, built, (ordinary (by decide) some_).mpr ?_⟩
  exact ⟨by unfold ReadsBack; decide, .inl (by decide)⟩

/-- A path that begins by climbing out of its own segments. -/
def climbingRequest : Http.Incoming := openRequest (.origin "/../x".toList none) []

theorem upstream_escaped :
    ∃ request target sent,
      Request.ofHttp .get climbingRequest.target climbingRequest.headers none = .ok request ∧
      ((direct (openGate.arbiter silent) openGate.backend climbingRequest).run
        openGate.keys).run () = .ok (((target, .allowed none), openGate.keys), ()) ∧
      outgoing target climbingRequest none = .ok sent ∧
      sent.url.render = "http://[::1]/x".toList ∧
      Text.dropEnd '/' openGate.backend.path ++ request.url.path = "/api/x".toList := by
  obtain ⟨request, accepted, judged⟩ : ∃ request,
      Request.ofHttp .get climbingRequest.target climbingRequest.headers none = .ok request ∧
        Text.dropEnd '/' openGate.backend.path ++ request.url.path = "/api/x".toList :=
    ⟨_, rfl, by decide +kernel⟩
  obtain ⟨target, placed, sent, built, rendered⟩ : ∃ target,
      backendTarget openGate.backend climbingRequest.target = .ok target ∧
        ∃ sent, outgoing target climbingRequest none = .ok sent ∧
          sent.url.render = "http://[::1]/x".toList := ⟨_, rfl, _, rfl, by decide +kernel⟩
  exact ⟨request, target, sent, accepted, open_allows climbingRequest request target accepted placed,
    built, rendered, judged⟩

end AccessGate.Proxy
