import AccessGate.Proofs.Http.Target
import AccessGate.Proofs.Url.Rendered
import AccessGate.Request

/-!
How a request is read off what was received. Its URL is that of a text that ends with its target, and
whose authority is the request's own.
-/

namespace AccessGate

open Http (Target Headers)

/-- The path of a URL with the target behind its authority, if its scheme is one with structure. -/
def Http.Target.canonicalPath (target : Target) : List Char :=
  Url.Path.render (Url.hostedPath false true
    (Url.splitPath (target.tail.dropWhile (!Url.endsAuthority true ·))).1)

namespace Request

/-- The scheme of a request whose scheme no header tells. -/
def ownScheme (scheme : Option (List Char)) : List Char := scheme.getD "http".toList

theorem schemeOf_unforwarded (target : Target) (headers : Headers)
    (plain : headers.get? "x-forwarded-proto" = none) :
    schemeOf target headers = ownScheme target.scheme? := by
  have gone : header? headers "x-forwarded-proto" = none := by
    change (headers.get? "x-forwarded-proto").bind _ = none
    rw [plain]
    rfl
  simp only [schemeOf, gone]
  rfl

-- The authority comes from a header or from the target; either way it is put in its normal form.
theorem authorityOf_within (target : Target) (headers : Headers) (authority : List Char)
    (formed : target.WellFormed) (read : authorityOf target headers = .ok authority) :
    authority.all Http.Authority.isWithin = true := by
  unfold authorityOf at read
  split at read
  · split at read
    · rename_i name parsed
      cases read
      exact Http.Authority.normal_within name (Http.Authority.parse_within _ _ parsed)
    · cases read
  · split at read
    · rename_i name known
      cases read
      exact Http.Authority.normal_within name (formed.authority_within name known)
    · cases read

theorem authorityOf_same (a b : Target) (headers : Headers) (same : a.authority? = b.authority?) :
    authorityOf a headers = authorityOf b headers := by
  unfold authorityOf
  rw [same]

theorem schemeOf_same (a b : Target) (headers : Headers) (same : a.scheme? = b.scheme?) :
    schemeOf a headers = schemeOf b headers := by
  unfold schemeOf
  rw [same]

def urlText (scheme authority : List Char) (target : Target) : List Char :=
  scheme ++ "://".toList ++ (authority ++ target.tail)

theorem ofHttp_ok (method : Http.Method) (target : Target) (headers : Headers)
    (peer : Option Net.SocketAddress) (request : Request)
    (read : ofHttp method target headers peer = .ok request) :
    authorityOf target headers = .ok request.authority ∧
      Url.parse (urlText (schemeOf target headers) request.authority target) = .ok request.url := by
  unfold ofHttp at read
  cases addressed : authorityOf target headers with
  | error denial =>
      rw [addressed] at read
      cases read
  | ok authority =>
      simp only [addressed, urlOf] at read
      split at read
      · cases read
      · rename_i url found
        cases read
        refine ⟨rfl, ?_⟩
        split at found
        · rename_i parsed
          cases found
          simpa [urlText, Target.tail] using parsed
        · cases found

theorem ofHttp_fields (method : Http.Method) (target : Target) (headers : Headers)
    (peer : Option Net.SocketAddress) (request : Request)
    (read : ofHttp method target headers peer = .ok request) :
    request.method = method ∧ request.token = tokenOf headers request.url ∧
      request.context = [] := by
  unfold ofHttp at read
  split at read
  · cases read
  · split at read
    · cases read
    · cases read
      exact ⟨rfl, rfl, rfl⟩

theorem nonEmpty?_iff (cs kept : List Char) :
    nonEmpty? cs = some kept ↔ cs = kept ∧ kept ≠ [] := by
  unfold nonEmpty?
  cases cs with
  | nil =>
      constructor
      · exact nofun
      · rintro ⟨rfl, some_⟩
        exact absurd rfl some_
  | cons c cs =>
      constructor
      · rintro ⟨⟩
        exact ⟨rfl, List.cons_ne_nil c cs⟩
      · rintro ⟨rfl, -⟩
        rfl

theorem tokenOf_ne_empty (headers : Headers) (url : Url) (token : String)
    (found : tokenOf headers url = some token) : token ≠ "" := by
  obtain ⟨text, either, rfl⟩ := Option.map_eq_some_iff.mp found
  have some_ : text ≠ [] := by
    rcases Option.or_eq_some_iff.mp either with header | ⟨-, query⟩
    · unfold headerToken? at header
      split at header
      · split at header
        · split at header
          · exact ((nonEmpty?_iff _ _).mp header).2
          · cases header
        · cases header
      · cases header
    · obtain ⟨pair, -, shown⟩ := Option.bind_eq_some_iff.mp query
      exact ((nonEmpty?_iff _ _).mp shown).2
  intro nothing
  apply some_
  rw [← String.toList_ofList (l := text), nothing]
  rfl

theorem ofHttp_of_parse (method : Http.Method) (target : Target) (headers : Headers)
    (peer : Option Net.SocketAddress) (authority : List Char) (url : Url)
    (addressed : authorityOf target headers = .ok authority)
    (parsed : Url.parse (urlText (schemeOf target headers) authority target) = .ok url) :
    ∃ request, ofHttp method target headers peer = .ok request ∧
      request.authority = authority ∧ request.url = url := by
  have whole : urlOf target headers = .ok url := by
    have text : schemeOf target headers ++ "://".toList ++ authority ++
        target.pathAndQuery?.getD ['/'] = urlText (schemeOf target headers) authority target := by
      simp [urlText, Target.tail]
    simp only [urlOf, addressed, text, parsed]
  refine ⟨⟨method, url, authority, tokenOf headers url, remoteIpOf headers peer, []⟩, ?_, rfl, rfl⟩
  simp only [ofHttp, addressed, whole]

/-! ## The text of the URL -/

theorem parse_urlText (text authority : List Char) (target : Target)
    (started : ∀ c, text.head? = some c → Url.isSolid c = true)
    (within : authority.all Http.Authority.isWithin = true) (formed : target.WellFormed) :
    Url.parse (urlText text authority target) =
      Url.parseSolid (Url.untabbed text ++ "://".toList ++ (authority ++ target.tail)) := by
  have solid : ("://".toList ++ (authority ++ target.tail)).all Url.isSolid = true := by
    have inner := Http.Authority.solid_of_within authority within
    rw [List.all_append, List.all_append, inner, (target.tail_solid formed).2]
    decide
  have whole : Url.cleaned (urlText text authority target) =
      Url.untabbed text ++ ("://".toList ++ (authority ++ target.tail)) := by
    unfold urlText
    rw [List.append_assoc]
    apply Url.cleaned_append _ _ _ solid (by simp)
    intro c first
    cases text with
    | nil =>
        cases first
        decide
    | cons d text => exact started c first
  rw [Url.parse_eq, whole, List.append_assoc]

theorem ownScheme_known (target : Target) (formed : target.WellFormed) :
    Target.IsScheme (ownScheme target.scheme?) := by
  cases formed with
  | star => exact .inl rfl
  | origin path query clean => exact .inl rfl
  | absolute scheme name path query known named within rooted clean => exact known
  | bare name within => exact .inl rfl

theorem scheme_solid (scheme : List Char) (known : Target.IsScheme scheme) :
    scheme.all Url.isSolid = true :=
  Target.solid_of_scheme scheme known.chars.1

theorem parse_ownScheme (scheme authority : List Char) (target : Target)
    (known : Target.IsScheme scheme) (within : authority.all Http.Authority.isWithin = true)
    (formed : target.WellFormed) :
    Url.parse (urlText scheme authority target) =
      Url.parseSolid (scheme ++ "://".toList ++ (authority ++ target.tail)) := by
  have solid := scheme_solid scheme known
  rw [parse_urlText scheme authority target _ within formed, Url.untabbed_solid scheme solid]
  intro c first
  exact List.all_eq_true.mp solid c (List.mem_of_mem_head? first)

-- The characters of a scheme have no colon among them, so such a text has no other scheme either.
theorem parseSolid_unreadable (scheme rest : List Char) (known : Target.IsScheme scheme)
    (unread : Url.reading? scheme = none) :
    (Url.parseSolid (scheme ++ "://".toList ++ rest)).isOk = false := by
  have chars := known.chars.1
  unfold Url.parseSolid
  rw [List.append_assoc]
  cases ended : scheme.all Url.isSchemeChar with
  | false =>
      have split : Url.splitScheme scheme = none := by
        unfold Url.splitScheme
        split
        · dsimp only
          split
          · rename_i behind shape
            have colon : ':' ∈ scheme := by
              apply List.mem_of_mem_drop
              rw [shape]
              exact List.mem_cons_self
            cases List.all_eq_true.mp chars ':' colon
          · rfl
        · rfl
      rw [Url.splitScheme_append scheme _ ended, split]
      rfl
  | true =>
      have unstarted := Url.unstarted_of_unread scheme rest ended unread
      rw [Url.splitScheme_unstarted scheme _ unstarted]
      rfl

-- An empty authority would take its name from the path; any other one ends where the target begins,
-- or within it when the target begins with no slash.
theorem path_of_web (text authority : List Char) (target : Target) (url : Url)
    (web : Url.reading? text = some .web) (named : authority ≠ [])
    (within : authority.all Http.Authority.isWithin = true)
    (read : Url.parseSolid (text ++ "://".toList ++ (authority ++ target.tail)) = .ok url) :
    url.path = target.canonicalPath := by
  have inside : Url.Inside true authority := fun c member =>
    Http.Authority.not_ends_of_within c (List.all_eq_true.mp within c member)
  have open_ : ∀ c ∈ authority, (!Url.endsAuthority true c) = true := by
    intro c member
    simp [inside c member]
  -- What is dropped with the authority is dropped from the tail as well.
  have path := Url.parseSolid_path text (authority ++ target.tail) .web web
  rw [read] at path
  simp only [Url.pathBehind, Url.dropWhile_separators true authority _ inside named,
    Url.hostedPathOf] at path
  cases placed : Url.placeAhead true (authority ++ target.tail) with
  | error e =>
      rw [placed] at path
      cases path
  | ok pair =>
      obtain ⟨place, rest⟩ := pair
      have behind := Url.placeAhead_special _ rest place placed
      rw [List.dropWhile_append_of_pos open_] at behind
      rw [placed] at path
      simp only [Except.map, Except.ok.injEq] at path
      rw [path, behind]
      rfl

theorem parse_unforwarded (method : Http.Method) (target : Target) (headers : Headers)
    (peer : Option Net.SocketAddress) (request : Request) (formed : target.WellFormed)
    (unforwarded : headers.get? "x-forwarded-proto" = none)
    (read : ofHttp method target headers peer = .ok request) :
    Url.parseSolid (ownScheme target.scheme? ++ "://".toList ++
      (request.authority ++ target.tail)) = .ok request.url := by
  obtain ⟨addressed, parsed⟩ := ofHttp_ok _ _ _ _ _ read
  have within := authorityOf_within target headers _ formed addressed
  rwa [schemeOf_unforwarded target headers unforwarded,
    parse_ownScheme _ _ target (ownScheme_known target formed) within formed] at parsed

theorem rooted_of_web (text rest : List Char) (url : Url) (web : Url.reading? text = some .web)
    (read : Url.parseSolid (text ++ "://".toList ++ rest) = .ok url) :
    url.path.head? = some '/' := by
  have path := Url.parseSolid_path text rest .web web
  rw [read] at path
  simp only [Url.pathBehind, Url.hostedPathOf] at path
  cases placed : Url.placeAhead true (rest.dropWhile (Url.Path.isSeparator true)) with
  | error e =>
      rw [placed] at path
      cases path
  | ok pair =>
      obtain ⟨place, behind⟩ := pair
      rw [placed] at path
      simp only [Except.map, Except.ok.injEq] at path
      have some_ := (Url.hostedPath_web (Url.splitPath behind).1).1
      rw [path]
      cases shape : Url.hostedPath false true (Url.splitPath behind).1 with
      | nil => exact absurd shape some_
      | cons first more => rfl

theorem isOk_of_map (result : Except Url.UrlError Url) (path : List Char)
    (read : result.map Url.path = .ok path) : ∃ url, result = .ok url ∧ url.path = path := by
  cases result with
  | error e => cases read
  | ok url =>
      cases read
      exact ⟨url, rfl, rfl⟩

end Request

end AccessGate
