import AccessGate.Proofs.OpenGate
import AccessGate.Proofs.Request

/-!
The scheme that a header forwards. It is put in front of the host as it is, so that some values do
more than to choose a scheme. Those that do no harm are the ones that no request is read with, and the
schemes under which paths are read as under the request's own.
-/

namespace AccessGate

open Http (Target Headers Octets)

namespace Request

def forwardedProto : String := "x-forwarded-proto"

/-- The text that a value puts in the place of the scheme. -/
def forwardedText? (value : Octets) : Option (List Char) :=
  (Http.textual? value).bind fun text => nonEmpty? (Text.lower (firstEntry text))

/-- A value that can have no effect on how a request with the given scheme is read: it stands for no
text, or no URL begins with its text, or the request cannot be read without it, or the text is a scheme
that is read as the request's own. -/
def Harmless (value : Octets) (scheme : Option (List Char)) : Prop :=
  ∀ text, forwardedText? value = some text →
    (Url.parse (text ++ "://".toList ++ Url.probe)).isOk = false ∨
      Url.reading? (ownScheme scheme) = none ∨
      Url.reading? (Url.untabbed text) = Url.reading? (ownScheme scheme)

/-! ## Reading a request -/

theorem schemeOf_forwarded (target : Target) (headers : Headers) (value : Octets)
    (forwarded : headers.get? forwardedProto = some value) :
    schemeOf target headers = (forwardedText? value).getD (ownScheme target.scheme?) := by
  have found : header? headers "x-forwarded-proto" = Http.textual? value := by
    change (headers.get? forwardedProto).bind Http.textual? = _
    rw [forwarded]
    rfl
  simp only [schemeOf, found, forwardedText?, ownScheme]
  cases (Http.textual? value).bind fun text => nonEmpty? (Text.lower (firstEntry text)) with
  | none => rfl
  | some text => rfl

theorem get?_erase (name other : String) (headers : Headers) :
    Headers.get? other (headers.erase name) =
      if other = name then none else Headers.get? other headers := by
  induction headers with
  | nil => simp [Headers.get?, Headers.erase]
  | cons field rest ih =>
      obtain ⟨key, value⟩ := field
      simp only [Headers.get?, Headers.erase] at ih ⊢
      by_cases gone : key = name
      · subst gone
        by_cases same : other = key
        · simp_all
        · simp_all [Ne.symm same]
      · by_cases hit : key = other
        · subst hit
          simp [gone]
        · simp_all

theorem schemeOf_erased (target : Target) (headers : Headers) :
    schemeOf target (headers.erase forwardedProto) = ownScheme target.scheme? := by
  apply schemeOf_unforwarded
  change Headers.get? forwardedProto _ = none
  rw [get?_erase, if_pos rfl]

theorem authorityOf_erased (target : Target) (headers : Headers) :
    authorityOf target (headers.erase forwardedProto) = authorityOf target headers := by
  have kept : header? (headers.erase forwardedProto) "host" = header? headers "host" := by
    change (Headers.get? "host" (headers.erase forwardedProto)).bind _ = (headers.get? "host").bind _
    rw [get?_erase, if_neg (by decide)]
  simp only [authorityOf, kept]

/-! ## The text in front -/

-- What is trimmed at its end is still a part of what was trimmed at its start.
theorem trim_started (cs : List Char) (c : Char) (first : (Text.trim cs).head? = some c) :
    c ∈ cs ∧ Text.isBlank c = false := by
  let start := Text.trimStart cs
  have before : Text.trim cs <+: start := by
    have shorter : start.reverse.dropWhile Text.isBlank <:+ start.reverse := List.dropWhile_suffix _
    have turned := List.reverse_prefix.mpr shorter
    rwa [List.reverse_reverse] at turned
  obtain ⟨rest, whole⟩ := before
  have head : start.head? = some c := by
    rw [← whole]
    cases trimmed : Text.trim cs with
    | nil =>
        rw [trimmed] at first
        cases first
    | cons d trimmed' =>
        rw [trimmed] at first
        exact first
  refine ⟨?_, Text.head?_dropWhile _ cs c head⟩
  apply List.dropWhile_subset Text.isBlank
  exact List.mem_of_mem_head? head

theorem textual_chars (value : Octets) (text : List Char) (read : Http.textual? value = some text) :
    ∀ c ∈ text, Text.isBlank c = true ∨ Url.isSolid c = true := by
  unfold Http.textual? at read
  split at read
  · rename_i known
    cases read
    intro c member
    obtain ⟨b, inside, rfl⟩ := List.mem_map.mp member
    have text := List.all_eq_true.mp known b inside
    have table : ∀ n : Fin 0x80, Http.isTextOctet (UInt8.ofNat n) = true →
        Text.isBlank (Char.ofNat n) = true ∨ Url.isSolid (Char.ofNat n) = true := by decide
    have small : b.toNat < 0x80 := by
      simp only [Http.isTextOctet, Bool.or_eq_true, Bool.and_eq_true, decide_eq_true_eq,
        beq_iff_eq, UInt8.le_iff_toNat_le] at text
      rcases text with ⟨-, high⟩ | rfl
      · exact Nat.lt_succ_of_le (Nat.le_trans high (by decide))
      · decide
    have found := table ⟨b.toNat, small⟩
    simp only [UInt8.ofNat_toNat] at found
    exact found text
  · cases read

theorem forwardedText_started (value : Octets) (text : List Char)
    (forwarded : forwardedText? value = some text) (c : Char) (first : text.head? = some c) :
    Url.isSolid c = true := by
  obtain ⟨whole, read, lowered⟩ := Option.bind_eq_some_iff.mp forwarded
  have same : text = Text.lower (firstEntry whole) := by
    unfold nonEmpty? at lowered
    split at lowered
    · cases lowered
    · cases lowered
      rfl
  rw [same, Text.lower, List.head?_map] at first
  obtain ⟨d, head, rfl⟩ := Option.map_eq_some_iff.mp first
  obtain ⟨inside, unblank⟩ := trim_started _ d head
  have member : d ∈ whole := by
    rw [Text.cut_eq ',' whole]
    exact List.mem_append_left _ inside
  have solid : Url.isSolid d = true := by
    rcases textual_chars value whole read d member with blank | solid
    · rw [unblank] at blank
      cases blank
    · exact solid
  rcases Text.toLower_letter d with kept | ⟨-, letter⟩
  · rw [kept]
    exact solid
  · apply Http.Authority.isSolid_of_within
    exact Http.Authority.isWithin_of_letter _ (Text.alpha_of_lower _ letter)

/-! ## Values that do no harm -/

theorem pathBehind_root (reading : Url.Reading) :
    Url.pathBehind reading (Url.probeName ++ ['/']) = .ok ['/'] := by
  cases reading with
  | file => rfl
  | web => rfl
  | plain => rfl

theorem pathBehind_child (reading : Url.Reading) :
    Url.pathBehind reading (Url.probeName ++ ['/', 'x']) = .ok ['/', 'x'] := by
  cases reading with
  | file => rfl
  | web => rfl
  | plain => rfl

theorem probe_of_read (text rest : List Char) (url : Url)
    (read : Url.parseSolid (text ++ "://".toList ++ rest) = .ok url) :
    ∃ probed, Url.parseSolid (text ++ "://".toList ++ Url.probe) = .ok probed := by
  rcases Url.parseSolid_cases text with ⟨reading, known⟩ | ⟨-, misreads⟩
  · have path := Url.parseSolid_path text Url.probe reading known
    rw [Url.probe, pathBehind_root] at path
    obtain ⟨probed, found, -⟩ := isOk_of_map _ _ path
    exact ⟨probed, found⟩
  · cases misreads with
    | never fails =>
        obtain ⟨e, failed⟩ := fails rest
        rw [read] at failed
        cases failed
    | constant path reads =>
        obtain ⟨probed, found, -⟩ := isOk_of_map _ _ (reads Url.probe)
        exact ⟨probed, found⟩
    | longer reads probed =>
        obtain ⟨path, found⟩ := reads Url.probe
        obtain ⟨probed, found, -⟩ := isOk_of_map _ _ found
        exact ⟨probed, found⟩

theorem parse_probe (text : List Char)
    (started : ∀ c, text.head? = some c → Url.isSolid c = true) :
    Url.parse (text ++ "://".toList ++ Url.probe) =
      Url.parseSolid (Url.untabbed text ++ "://".toList ++ Url.probe) :=
  parse_urlText text Url.probeName (.origin ['/'] none) started (by decide)
    (.origin [] none ⟨by decide, by decide⟩)

theorem path_of_harmless (method : Http.Method) (target : Target) (headers : Headers)
    (peer : Option Net.SocketAddress) (value : Octets) (request plain : Request)
    (formed : target.WellFormed) (harmless : Harmless value target.scheme?)
    (forwarded : headers.get? forwardedProto = some value)
    (read : ofHttp method target headers peer = .ok request)
    (readPlain : ofHttp method target (headers.erase forwardedProto) peer = .ok plain) :
    request.authority = plain.authority ∧ request.url.path = plain.url.path := by
  obtain ⟨addressed, parsed⟩ := ofHttp_ok _ _ _ _ _ read
  obtain ⟨addressedPlain, parsedPlain⟩ := ofHttp_ok _ _ _ _ _ readPlain
  rw [authorityOf_erased, addressed] at addressedPlain
  have same : request.authority = plain.authority := Except.ok.inj addressedPlain
  rw [← same, schemeOf_erased] at parsedPlain
  rw [schemeOf_forwarded target headers value forwarded] at parsed
  have within := authorityOf_within target headers _ formed addressed
  have own := ownScheme_known target formed
  refine ⟨same, ?_⟩
  cases text_eq : forwardedText? value with
  | none =>
      rw [text_eq] at parsed
      rw [Except.ok.inj (parsed.symm.trans parsedPlain)]
  | some text =>
      rw [text_eq] at parsed
      have started := forwardedText_started value text text_eq
      rw [Option.getD_some, parse_urlText text _ target started within formed] at parsed
      rw [parse_ownScheme _ _ target own within formed] at parsedPlain
      rcases harmless text text_eq with unread | unreadable | alike
      · obtain ⟨probed, found⟩ := probe_of_read _ _ _ parsed
        rw [parse_probe text started, found] at unread
        cases unread
      · have failed := parseSolid_unreadable _ (request.authority ++ target.tail) own unreadable
        rw [parsedPlain] at failed
        cases failed
      · cases known : Url.reading? (ownScheme target.scheme?) with
        | none =>
            have failed := parseSolid_unreadable _ (request.authority ++ target.tail) own known
            rw [parsedPlain] at failed
            cases failed
        | some reading =>
            have path := Url.parseSolid_path _ (request.authority ++ target.tail) reading
              (alike.trans known)
            have pathPlain := Url.parseSolid_path _ (request.authority ++ target.tail) reading known
            rw [parsed] at path
            rw [parsedPlain] at pathPlain
            exact Except.ok.inj (path.trans pathPlain.symm)

/-! ## What is asked of a value -/

/-- A value under which authority and path are what they are without it, in every request with the
given scheme that is read with it and without it. -/
def SchemeOnly (value : Octets) (scheme : Option (List Char)) : Prop :=
  ∀ (method : Http.Method) (source : List Char) (target : Target) (headers : Headers)
    (peer : Option Net.SocketAddress) (request plain : Request),
    Target.parse source = .ok target → target.scheme? = scheme →
    headers.get? forwardedProto = some value →
    ofHttp method target headers peer = .ok request →
    ofHttp method target (headers.erase forwardedProto) peer = .ok plain →
    request.authority = plain.authority ∧ request.url.path = plain.url.path

/-- A value under which no request with the given scheme is allowed for another path than the one that
its own target stands for, and that it goes on with. -/
def Faithful (value : Octets) (scheme : Option (List Char)) : Prop :=
  ∀ (σ : Type) (arbiter : Arbiter σ) (backend : Url) (incoming : Http.Incoming)
    (keys held : KeyManager) (s after : σ) (source : List Char) (target : Target)
    (token : Option String),
    Target.parse source = .ok incoming.target → incoming.target.scheme? = scheme →
    incoming.headers.get? forwardedProto = some value →
    ((Proxy.direct arbiter backend incoming).run keys).run s =
      .ok (((target, .allowed token), held), after) →
    ∃ request decision,
      ofHttp incoming.method incoming.target incoming.headers incoming.peer = .ok request ∧
      ((arbiter.decide request).run keys).run s = .ok ((.ok decision, held), after) ∧
      Proxy.backendTarget backend incoming.target = .ok target ∧
      (request.authority ≠ [] → request.url.path = incoming.target.canonicalPath)

theorem schemeOnly_of_harmless (value : Octets) (scheme : Option (List Char))
    (harmless : Harmless value scheme) : SchemeOnly value scheme := by
  intro method source target headers peer request plain targeted same forwarded read readPlain
  rw [← same] at harmless
  exact path_of_harmless method target headers peer value request plain
    (Target.parse_wellFormed _ _ targeted) harmless forwarded read readPlain

theorem faithful_of_harmless (value : Octets) (scheme : Option (List Char))
    (web : Url.reading? (ownScheme scheme) = some .web) (harmless : Harmless value scheme) :
    Faithful value scheme := by
  intro σ arbiter backend incoming keys held s after source target token targeted same forwarded
    allowed
  obtain ⟨request, decision, read, decided, placed⟩ :=
    Proxy.direct_allowed arbiter backend incoming keys held s after target token allowed
  refine ⟨request, decision, read, decided, placed, ?_⟩
  intro named
  have formed := Target.parse_wellFormed _ _ targeted
  rw [← same] at web harmless
  obtain ⟨addressed, parsed⟩ := ofHttp_ok _ _ _ _ _ read
  have within := authorityOf_within _ _ _ formed addressed
  obtain ⟨text, front, readFront⟩ : ∃ text, Url.reading? text = some .web ∧
      Url.parseSolid (text ++ "://".toList ++ (request.authority ++ incoming.target.tail)) =
        .ok request.url := by
    have own := ownScheme_known _ formed
    rw [schemeOf_forwarded _ _ value forwarded] at parsed
    cases text_eq : forwardedText? value with
    | none =>
        rw [text_eq, Option.getD_none, parse_ownScheme _ _ _ own within formed] at parsed
        exact ⟨_, web, parsed⟩
    | some text =>
        have started := forwardedText_started value text text_eq
        rw [text_eq, Option.getD_some, parse_urlText text _ _ started within formed] at parsed
        refine ⟨_, ?_, parsed⟩
        rcases harmless text text_eq with unread | unreadable | alike
        · obtain ⟨probed, found⟩ := probe_of_read _ _ _ parsed
          rw [parse_probe text started, found] at unread
          cases unread
        · rw [web] at unreadable
          cases unreadable
        · rw [alike, web]
  exact path_of_web text _ _ _ front named within readFront

/-! ## Values that do harm -/

def probePaths : List (List Char) := [[], ['x'], "a\\b".toList, "C|/".toList]

theorem probePaths_clean (path : List Char) (probed : path ∈ probePaths) :
    path.length ≤ 8 ∧ Target.Clean ('/' :: path) none := by
  have table : ∀ path ∈ probePaths,
      path.length ≤ 8 ∧ ('/' :: path).all Target.isPathChar = true := by decide
  obtain ⟨short, chars⟩ := table path probed
  exact ⟨short, chars, rfl⟩

def probeTarget (scheme : Option (List Char)) (path : List Char) : Target :=
  match scheme with
  | some scheme => .absolute scheme Url.probeName ('/' :: path) none
  | none => .origin ('/' :: path) none

theorem probeTarget_read (kind : Target) (formed : kind.WellFormed) (path : List Char)
    (probed : path ∈ probePaths) :
    ∃ source, Target.parse source = .ok (probeTarget kind.scheme? path) := by
  obtain ⟨short, clean⟩ := probePaths_clean path probed
  have rooted : Target.parse ('/' :: path) = .ok (.origin ('/' :: path) none) := by
    have size : ¬ Target.maxLength < Utf8.size ('/' :: path) := by
      have bound := Target.size_le ('/' :: path)
      simp only [List.length_cons] at bound
      simp only [Target.maxLength]
      omega
    unfold Target.parse
    rw [if_neg size]
    change (Target.pathAndQuery ('/' :: path)).map _ = _
    rw [Target.pathAndQuery_clean _ clean]
    rfl
  cases formed with
  | star => exact ⟨_, rooted⟩
  | origin path query other => exact ⟨_, rooted⟩
  | bare name within => exact ⟨_, rooted⟩
  | absolute scheme name _ query known named within _ other =>
      exact ⟨_, Target.parse_absolute scheme path known short clean⟩

theorem probeTarget_tail (scheme : Option (List Char)) (path : List Char) :
    (probeTarget scheme path).tail = '/' :: path := by
  cases scheme with
  | none => simp [probeTarget, Target.tail, Target.pathAndQuery?, Target.queryText]
  | some scheme =>
      simp [probeTarget, Target.tail, Target.pathAndQuery?, Target.queryText, Target.orSlash]

theorem probeTarget_scheme (scheme : Option (List Char)) (path : List Char) :
    (probeTarget scheme path).scheme? = scheme := by
  cases scheme with
  | none => rfl
  | some scheme => rfl

theorem probeTarget_placed (scheme : Option (List Char)) (path : List Char)
    (probed : path ∈ probePaths) :
    ∃ target, Proxy.backendTarget Proxy.openGate.backend (probeTarget scheme path) = .ok target := by
  have text : Proxy.backendText Proxy.openGate.backend (probeTarget scheme path) =
      Text.dropEnd '/' Proxy.openGate.backend.render ++ '/' :: path := by
    rw [← probeTarget_tail scheme path]
    rfl
  unfold Proxy.backendTarget
  rw [text]
  simp only [probePaths, List.mem_cons, List.not_mem_nil, or_false] at probed
  rcases probed with rfl | rfl | rfl | rfl
  · exact ⟨_, rfl⟩
  · exact ⟨_, rfl⟩
  · exact ⟨_, rfl⟩
  · exact ⟨_, rfl⟩

def probeHeaders (value : Octets) : Headers :=
  [("host", Utf8.encode Url.probeName), (forwardedProto, value)]

theorem authorityOf_probe (target : Target) (value : Octets) :
    authorityOf target (probeHeaders value) = .ok Url.probeName := by
  have host : header? (probeHeaders value) "host" = some Url.probeName := rfl
  simp only [authorityOf, host]
  rfl

/-- A probe has one path behind the text of a value and another one behind its own scheme. -/
structure Misled (text : List Char) (scheme : Option (List Char)) (path first second : List Char) :
    Prop where
  probed : path ∈ probePaths
  read : (Url.parseSolid (Url.untabbed text ++ "://".toList ++ (Url.probeName ++ '/' :: path))).map
    Url.path = .ok first
  readPlain : (Url.parseSolid (ownScheme scheme ++ "://".toList ++
    (Url.probeName ++ '/' :: path))).map Url.path = .ok second
  apart : first ≠ second

theorem probe_requests (value : Octets) (kind : Target) (text path first second : List Char)
    (formed : kind.WellFormed) (forwarded : forwardedText? value = some text)
    (misled : Misled text kind.scheme? path first second) :
    ∃ request plain,
      ofHttp .get (probeTarget kind.scheme? path) (probeHeaders value) none = .ok request ∧
      ofHttp .get (probeTarget kind.scheme? path) ((probeHeaders value).erase forwardedProto) none =
        .ok plain ∧
      request.authority = Url.probeName ∧ request.url.path = first ∧ plain.url.path = second := by
  let target := probeTarget kind.scheme? path
  have sameScheme : target.scheme? = kind.scheme? := probeTarget_scheme _ _
  obtain ⟨url, parsed, shown⟩ := isOk_of_map _ _ misled.read
  obtain ⟨urlPlain, parsedPlain, shownPlain⟩ := isOk_of_map _ _ misled.readPlain
  obtain ⟨source, targeted⟩ := probeTarget_read kind formed path misled.probed
  have targetFormed := Target.parse_wellFormed _ _ targeted
  have found : (probeHeaders value).get? forwardedProto = some value := rfl
  have within : Url.probeName.all Http.Authority.isWithin = true := by decide
  have started := forwardedText_started value text forwarded
  have own := ownScheme_known kind formed
  obtain ⟨request, accepted, named, requestUrl⟩ := ofHttp_of_parse .get target (probeHeaders value)
    none Url.probeName url (authorityOf_probe _ value) (by
      rw [schemeOf_forwarded _ _ value found, forwarded, Option.getD_some,
        parse_urlText text _ _ started within targetFormed, probeTarget_tail, parsed])
  obtain ⟨plain, acceptedPlain, -, plainUrl⟩ := ofHttp_of_parse .get target
    ((probeHeaders value).erase forwardedProto) none Url.probeName urlPlain (by
      rw [authorityOf_erased, authorityOf_probe]) (by
      rw [schemeOf_erased, sameScheme, parse_ownScheme _ _ _ own within targetFormed,
        probeTarget_tail, parsedPlain])
  exact ⟨request, plain, accepted, acceptedPlain, named, by rw [requestUrl, shown],
    by rw [plainUrl, shownPlain]⟩

-- The probe is a request that is read both ways, with two paths.
theorem not_schemeOnly (value : Octets) (kind : Target) (text path first second : List Char)
    (formed : kind.WellFormed) (forwarded : forwardedText? value = some text)
    (misled : Misled text kind.scheme? path first second) : ¬ SchemeOnly value kind.scheme? := by
  intro schemeOnly
  obtain ⟨request, plain, read, readPlain, -, shown, shownPlain⟩ :=
    probe_requests value kind text path first second formed forwarded misled
  obtain ⟨source, targeted⟩ := probeTarget_read kind formed path misled.probed
  obtain ⟨-, samePath⟩ := schemeOnly .get source _ (probeHeaders value) none request plain
    targeted (probeTarget_scheme _ _) rfl read readPlain
  rw [shown, shownPlain] at samePath
  exact misled.apart samePath

-- The open gate allows the probe, whatever it is read as.
theorem not_faithful (value : Octets) (kind : Target) (text path first second : List Char)
    (formed : kind.WellFormed) (forwarded : forwardedText? value = some text)
    (web : Url.reading? (ownScheme kind.scheme?) = some .web)
    (misled : Misled text kind.scheme? path first second) : ¬ Faithful value kind.scheme? := by
  intro faithful
  obtain ⟨request, plain, read, -, named, shown, -⟩ :=
    probe_requests value kind text path first second formed forwarded misled
  obtain ⟨source, targeted⟩ := probeTarget_read kind formed path misled.probed
  obtain ⟨target, placed⟩ := probeTarget_placed kind.scheme? path misled.probed
  let incoming : Http.Incoming :=
    ⟨.get, probeTarget kind.scheme? path, probeHeaders value, none, []⟩
  have allowed := Proxy.open_allows incoming request target read placed
  obtain ⟨judged, decision, again, -, -, canonical⟩ := faithful Unit _ _ incoming _ _ _ _ source
    target none targeted (probeTarget_scheme _ _) rfl allowed
  cases read.symm.trans again
  have path_eq := canonical (by rw [named]; decide)
  obtain ⟨url, parsed, shownPlain⟩ := isOk_of_map _ _ misled.readPlain
  rw [← probeTarget_tail kind.scheme?] at parsed
  have plain_eq := path_of_web _ Url.probeName _ url web (by decide) (by decide) parsed
  rw [shown] at path_eq
  rw [shownPlain] at plain_eq
  exact misled.apart (path_eq.trans plain_eq.symm)

theorem choice_apart (reading first second : Url.Reading) (a b : List Char) (apart : a ≠ b)
    (one : ¬ (first = reading ↔ second = reading)) :
    (if first = reading then a else b) ≠ if second = reading then a else b := by
  by_cases here : first = reading
  · by_cases there : second = reading
    · exact absurd (iff_of_true here there) one
    · simpa only [if_pos here, if_neg there] using apart
  · by_cases there : second = reading
    · simpa only [if_neg here, if_pos there] using apart.symm
    · exact absurd (iff_of_false here there) one

-- Only a file has a drive written with a colon, and only behind a plain scheme a backslash stays.
theorem readings_apart (first second : Url.Reading) (other : first ≠ second) :
    ∃ path ∈ probePaths, ∃ here there, here ≠ there ∧
      Url.pathBehind first (Url.probeName ++ '/' :: path) = .ok here ∧
      Url.pathBehind second (Url.probeName ++ '/' :: path) = .ok there := by
  have drives : ∀ reading, Url.pathBehind reading (Url.probeName ++ "/C|/".toList) =
      .ok (if reading = .file then "/C:/".toList else "/C|/".toList) := by
    intro reading
    cases reading with
    | file => rfl
    | web => rfl
    | plain => rfl
  have slashes : ∀ reading, reading ≠ .file →
      Url.pathBehind reading (Url.probeName ++ "/a\\b".toList) =
        .ok (if reading = .web then "/a/b".toList else "/a\\b".toList) := by
    intro reading unfiled
    cases reading with
    | file => exact absurd rfl unfiled
    | web => rfl
    | plain => rfl
  by_cases drive : first = .file ↔ second = .file
  · have unfiled : first ≠ .file ∧ second ≠ .file := by
      constructor
      · exact fun file => other (file.trans (drive.mp file).symm)
      · exact fun file => other ((drive.mpr file).trans file.symm)
    refine ⟨"a\\b".toList, by decide, _, _, ?_, slashes first unfiled.1, slashes second unfiled.2⟩
    apply choice_apart _ _ _ _ _ (by decide)
    intro web
    cases first with
    | file => exact unfiled.1 rfl
    | web => exact other (web.mp rfl).symm
    | plain => cases second with
      | file => exact unfiled.2 rfl
      | web => cases web.mpr rfl
      | plain => exact other rfl
  · refine ⟨"C|/".toList, by decide, _, _, ?_, drives first, drives second⟩
    exact choice_apart _ _ _ _ _ (by decide) drive

/-- A value that misleads no probe does no harm. -/
theorem harmless_of_unmisled (value : Octets) (scheme : Option (List Char))
    (unmisled : ∀ text path first second, forwardedText? value = some text →
      ¬ Misled text scheme path first second) : Harmless value scheme := by
  intro text forwarded
  have started := forwardedText_started value text forwarded
  cases own : Url.reading? (ownScheme scheme) with
  | none => exact .inr (.inl rfl)
  | some reading =>
      have plainPath := fun path => Url.parseSolid_path _ (Url.probeName ++ '/' :: path) reading own
      rcases Url.parseSolid_cases (Url.untabbed text) with ⟨other, known⟩ | ⟨-, misreads⟩
      · right
        right
        rw [known]
        by_cases alike : other = reading
        · rw [alike]
        · obtain ⟨path, probed, here, there, apart, read, readPlain⟩ :=
            readings_apart other reading alike
          rw [← Url.parseSolid_path _ _ other known] at read
          rw [← plainPath] at readPlain
          exact absurd ⟨probed, read, readPlain, apart⟩ (unmisled text path here there forwarded)
      · have root := plainPath []
        rw [pathBehind_root] at root
        have child := plainPath ['x']
        rw [pathBehind_child] at child
        cases misreads with
        | never fails =>
            left
            obtain ⟨e, failed⟩ := fails Url.probe
            rw [parse_probe text started]
            cases parsed : Url.parseSolid (Url.untabbed text ++ "://".toList ++ Url.probe) with
            | error e => rfl
            | ok url =>
                rw [parsed] at failed
                cases failed
        | constant path reads =>
            -- One path cannot be that of both probes.
            by_cases rooted : path = ['/']
            · have apart : path ≠ ['/', 'x'] := by
                rw [rooted]
                decide
              exact absurd ⟨by decide, reads _, child, apart⟩ (unmisled text ['x'] _ _ forwarded)
            · exact absurd ⟨by decide, reads _, root, rooted⟩ (unmisled text [] _ _ forwarded)
        | longer reads probed =>
            obtain ⟨path, read, unrooted⟩ := probed
            exact absurd ⟨by decide, read, root, unrooted⟩ (unmisled text [] _ _ forwarded)

theorem forwarded_scheme_harmless (value : Octets) (source : List Char) (kind : Target)
    (read : Target.parse source = .ok kind) :
    (SchemeOnly value kind.scheme? ↔ Harmless value kind.scheme?) ∧
      (Url.reading? (ownScheme kind.scheme?) = some .web →
        (Faithful value kind.scheme? ↔ Harmless value kind.scheme?)) := by
  have formed := Target.parse_wellFormed _ _ read
  constructor
  · constructor
    · intro schemeOnly
      apply harmless_of_unmisled
      intro text path first second forwarded misled
      exact not_schemeOnly value kind text path first second formed forwarded misled schemeOnly
    · exact schemeOnly_of_harmless value kind.scheme?
  · intro web
    constructor
    · intro faithful
      apply harmless_of_unmisled
      intro text path first second forwarded misled
      exact not_faithful value kind text path first second formed forwarded web misled faithful
    · exact faithful_of_harmless value kind.scheme? web

/-- A value with a whole URL in it, up to the mark that begins a query. -/
def wholeUrl : Octets := Utf8.encode "http://[::1]/allowed?".toList

theorem forwarded_scheme_harmless_plain :
    Target.parse "/secret".toList = .ok (.origin "/secret".toList none) ∧
      SchemeOnly (Utf8.encode "HTTPS, http".toList) none ∧
      Faithful (Utf8.encode "HTTPS, http".toList) none ∧
      ¬ SchemeOnly wholeUrl none ∧ ¬ Faithful wholeUrl none := by
  have read : Target.parse "/secret".toList = .ok (.origin "/secret".toList none) := rfl
  have web : Url.reading? (ownScheme none) = some .web := by decide
  have harmless : Harmless (Utf8.encode "HTTPS, http".toList) none := by
    intro text forwarded
    have found : forwardedText? (Utf8.encode "HTTPS, http".toList) = some "https".toList := by
      decide
    cases found.symm.trans forwarded
    exact .inr (.inr (by decide))
  have harmful : ¬ Harmless wholeUrl none := by
    intro harmless
    have found : forwardedText? wholeUrl = some "http://[::1]/allowed?".toList := by decide
    rcases harmless _ found with unread | unreadable | alike
    · exact absurd unread (by decide +kernel)
    · exact absurd unreadable (by decide)
    · exact absurd alike (by decide)
  obtain ⟨schemeOnly, faithful⟩ := forwarded_scheme_harmless _ "/secret".toList _ read
  obtain ⟨schemeOnly', faithful'⟩ := forwarded_scheme_harmless wholeUrl "/secret".toList _ read
  exact ⟨read, schemeOnly.mpr harmless, (faithful web).mpr harmless,
    fun only => harmful (schemeOnly'.mp only), fun faith => harmful ((faithful' web).mp faith)⟩

/-- A request for one path, with a forwarded scheme that has the URL of another one in it. -/
def redirectedRequest : Http.Incoming :=
  Proxy.openRequest (.origin "/secret".toList none) [(forwardedProto, wholeUrl)]

theorem forwarded_scheme_chooses_path :
    ∃ request plain target,
      ofHttp .get redirectedRequest.target redirectedRequest.headers none = .ok request ∧
      ofHttp .get redirectedRequest.target (redirectedRequest.headers.erase forwardedProto) none =
        .ok plain ∧
      request.matchUrl = "http://[::1]/allowed".toList ∧
      plain.matchUrl = "http://[::1]/secret".toList ∧
      ((Proxy.direct (Proxy.openGate.arbiter Proxy.silent) Proxy.openGate.backend
        redirectedRequest).run Proxy.openGate.keys).run () =
          .ok (((target, .allowed none), Proxy.openGate.keys), ()) ∧
      target.render = "http://[::1]/api/secret".toList := by
  obtain ⟨request, read, matched⟩ : ∃ request,
      ofHttp .get redirectedRequest.target redirectedRequest.headers none = .ok request ∧
        request.matchUrl = "http://[::1]/allowed".toList := ⟨_, rfl, by decide +kernel⟩
  obtain ⟨plain, readPlain, matchedPlain⟩ : ∃ plain,
      ofHttp .get redirectedRequest.target (redirectedRequest.headers.erase forwardedProto) none =
        .ok plain ∧ plain.matchUrl = "http://[::1]/secret".toList := ⟨_, rfl, by decide +kernel⟩
  obtain ⟨target, placed, rendered⟩ : ∃ target,
      Proxy.backendTarget Proxy.openGate.backend redirectedRequest.target = .ok target ∧
        target.render = "http://[::1]/api/secret".toList := ⟨_, rfl, by decide +kernel⟩
  exact ⟨request, plain, target, read, readPlain, matched, matchedPlain,
    Proxy.open_allows redirectedRequest request target read placed, rendered⟩

end Request

end AccessGate
