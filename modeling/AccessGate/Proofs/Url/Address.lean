import AccessGate.Proofs.Url.LetterCase
import AccessGate.Proofs.Url.Rendered

/-!
The address of a URL: its scheme, host, port and path. A text of a scheme, an authority without user
information and the path of a URL is read as the host and port that its authority says, with that path.
-/

namespace AccessGate.Url

/-! ## Schemes as they are read -/

theorem isSchemeChar_of_letter (c : Char) (letter : c.isAlpha = true) : isSchemeChar c = true := by
  simp [isSchemeChar, Char.isAlphanum, letter]

theorem isBare_lower (raw : List Char) (bare : isBare raw = true) :
    isBare (Text.lower raw) = true ∧ Text.lower (Text.lower raw) = Text.lower raw := by
  simp only [isBare, Bool.and_eq_true, beq_iff_eq] at bare ⊢
  refine ⟨⟨?_, Text.lower_all isSchemeChar isSchemeChar_of_letter raw bare.2⟩, ?_⟩
  · cases raw with
    | nil => cases bare.1
    | cons c raw =>
        have letter : c.isAlpha = true := by simpa using bare.1
        have low : c.toLower.isAlpha = true := by
          rcases Text.toLower_letter c with same | ⟨-, lower⟩
          · rw [same, letter]
          · exact Text.alpha_of_lower _ lower
        simpa [Text.lower] using low
  · rw [Text.lower, Text.lower, List.map_map]
    exact List.map_congr_left fun c _ => Text.toLower_toLower c

theorem splitScheme_some (cs scheme rest : List Char) (read : splitScheme cs = some (scheme, rest)) :
    ∃ raw, cs = raw ++ ':' :: rest ∧ isBare raw = true ∧ scheme = Text.lower raw := by
  unfold splitScheme at read
  split at read
  · rename_i started
    dsimp only at read
    split at read
    · rename_i behind shape
      cases read
      have parts : cs = cs.takeWhile isSchemeChar ++ ':' :: rest := by
        rw [← shape, Text.drop_takeWhile, List.takeWhile_append_dropWhile]
      refine ⟨_, parts, ?_, rfl⟩
      cases cs with
      | nil => cases started
      | cons c cs =>
          have letter : c.isAlpha = true := by simpa using started
          simp [isBare, isSchemeChar_of_letter c letter, letter]
    · cases read
  · cases read

/-! ## Authorities without user information -/

/-- The text of an authority that tells a host and a port and nobody else. -/
structure Plain (special : Bool) (a : List Char) : Prop where
  inside : Inside true a
  no_user : '@' ∉ a
  solid : a.all isSolid = true
  named : special = true → a ≠ []

/-- The host and the port that such a text tells. -/
def asked (special : Bool) (a : List Char) : Except UrlError (Host × Option Nat) := do
  let (host, rest) ← splitHost special a
  let (port, _) ← portAhead rest
  pure (host, port)

theorem HostText.asked_append {text : List Char} (host : HostText text) (special : Bool) (suffix : List Char)
    (port : Option Nat) (stop : hostLength special false suffix = 0)
    (ported : portAhead suffix = .ok (port, [])) :
    asked special (text ++ suffix) = (Host.readIn special text).map fun host => (host, port) := by
  unfold asked
  rw [host.splitHost_ahead special suffix stop]
  cases Host.readIn special text with
  | error e => rfl
  | ok found =>
      simp only [Except.map, bind, Except.bind]
      rw [ported]
      rfl

theorem Plain.placeIn_eq {special : Bool} {a : List Char} (plain : Plain special a) (last : Bool) :
    placeIn special last a = (asked special a).map fun (host, port) => (⟨⟨[], []⟩, host, port⟩, []) := by
  have first : infoIn last a = .ok (⟨[], []⟩, a) :=
    if_neg fun marked => plain.no_user (List.contains_iff_mem.mp marked)
  unfold placeIn asked
  rw [first]
  simp only [bind, Except.bind]
  cases second : splitHost special a with
  | error e => rfl
  | ok pair =>
      obtain ⟨host, d⟩ := pair
      dsimp only
      cases third : portAhead d with
      | error e => rfl
      | ok pair =>
          obtain ⟨port, e⟩ := pair
          rw [splitHost_closed special a d e host port plain.inside second third]
          simp only [ne_eq, not_true_eq_false, or_self, and_false, if_false]
          rfl

/-! ## Texts of addresses -/

theorem cleaned_solid (cs : List Char) (solid : cs.all isSolid = true) : cleaned cs = cs := by
  cases cs with
  | nil => rfl
  | cons c cs =>
      have whole := cleaned_append [] (c :: cs) (fun d first => by
        cases first
        exact List.all_eq_true.mp solid _ List.mem_cons_self) solid (by simp)
      exact whole

theorem isSolid_of_scheme (c : Char) (known : isSchemeChar c = true) : isSolid c = true := by
  simp only [isSchemeChar, Bool.or_eq_true, beq_iff_eq] at known
  rcases known with ((alnum | rfl) | rfl) | rfl
  · have range := Text.alphanum_range c alnum
    simp only [isSolid, decide_eq_true_eq]
    omega
  · decide
  · decide
  · decide

theorem solid_of_bare (scheme : List Char) (bare : isBare scheme = true) : scheme.all isSolid = true := by
  simp only [isBare, Bool.and_eq_true] at bare
  exact List.all_eq_true.mpr fun c member => isSolid_of_scheme c (List.all_eq_true.mp bare.2 c member)

theorem settled_chars {special : Bool} {segment : List Char} (settled : Path.SettledIn special segment) :
    ∀ c ∈ segment, isSolid c = true ∧ endsPath c = false := by
  have table : ∀ c ∈ Percent.signs, isSolid c = true ∧ endsPath c = false :=
    Text.each_of_all Percent.signs _ (by decide)
  intro c member
  rw [← settled.unescaped] at member
  rcases Percent.mem_encode _ segment c member with ⟨-, -, kept⟩ | sign
  · simp only [escapedInPath, Bool.or_eq_false_iff, decide_eq_false_iff_not] at kept
    obtain ⟨⟨high, -⟩, plain⟩ := kept
    refine ⟨by simp only [isSolid, decide_eq_true_eq]; omega, ?_⟩
    cases ends : endsPath c with
    | false => rfl
    | true =>
        simp only [endsPath, Bool.or_eq_true, beq_iff_eq] at ends
        rcases ends with rfl | rfl
        · cases plain
        · cases plain
  · exact table c sign

theorem render_chars {special : Bool} {list : List (List Char)}
    (settled : ∀ segment ∈ list, Path.SettledIn special segment) :
    ∀ c ∈ Path.render list, isSolid c = true ∧ endsPath c = false := by
  intro c member
  obtain ⟨segment, listed, inside⟩ := List.mem_flatMap.mp member
  rcases List.mem_cons.mp inside with rfl | inner
  · decide
  · exact settled_chars (settled segment listed) c inner

theorem splitPath_render {special : Bool} {list : List (List Char)}
    (settled : ∀ segment ∈ list, Path.SettledIn special segment) :
    splitPath (Path.render list) = (Path.render list, []) := by
  have taken : (Path.render list).takeWhile (!endsPath ·) = Path.render list := by
    have whole := Text.takeWhile_all (!endsPath ·) (Path.render list) []
      (fun c member => by simp [(render_chars settled c member).2]) (fun c first => by cases first)
    rwa [List.append_nil] at whole
  simp only [splitPath, taken, List.drop_length]

def ofAddress (scheme : List Char) (host : Host) (port : Option Nat) (list : List (List Char)) : Url :=
  ⟨scheme, [], [], some host, port, .segments list, none, none⟩

/-- The parts of a text that is read as an address. -/
structure AddressText (scheme a : List Char) (list : List (List Char)) : Prop where
  bare : isBare scheme = true
  lowered : Text.lower scheme = scheme
  unfiled : isFile scheme = false
  authority : Plain (isSpecial scheme) a
  rooted : isSpecial scheme = true → list ≠ []
  settled : ∀ segment ∈ list, Path.SettledIn (isSpecial scheme) segment

namespace AddressText

variable {scheme a : List Char} {list : List (List Char)}

theorem solid (text : AddressText scheme a list) :
    (scheme ++ "://".toList ++ a ++ Path.render list).all isSolid = true := by
  rw [List.all_append, List.all_append, List.all_append, text.authority.solid]
  have first := solid_of_bare scheme text.bare
  have last : (Path.render list).all isSolid = true :=
    List.all_eq_true.mpr fun c member => (render_chars text.settled c member).1
  rw [first, last]
  rfl

theorem parse_eq (text : AddressText scheme a list) :
    parse (scheme ++ "://".toList ++ a ++ Path.render list) =
      (asked (isSpecial scheme) a).map fun (host, port) =>
        ofAddress scheme host (keptPort scheme port) list := by
  have shape : scheme ++ "://".toList ++ a ++ Path.render list =
      scheme ++ ':' :: '/' :: '/' :: (a ++ Path.render list) := by simp
  have closes : Closes (isSpecial scheme) (Path.render list) := by
    intro c first
    cases list with
    | nil => cases first
    | cons segment list =>
        cases first
        rfl
  have hosted : parseHosted scheme (a ++ Path.render list) =
      (asked (isSpecial scheme) a).map fun (host, port) =>
        ofAddress scheme host (keptPort scheme port) list := by
    rw [parseHosted_eq, placeAhead_append _ _ _ (inside_any _ _ text.authority.inside) closes,
      text.authority.placeIn_eq]
    cases asked (isSpecial scheme) a with
    | error e => rfl
    | ok pair =>
        obtain ⟨host, port⟩ := pair
        simp only [Except.map, List.nil_append, placed, splitPath_render text.settled,
          Path.hostedPath_render list text.rooted text.settled]
        rfl
  have solid := text.solid
  rw [shape] at solid ⊢
  rw [Url.parse_eq, cleaned_solid _ solid]
  unfold parseSolid
  rw [splitScheme_bare scheme _ text.bare, text.lowered]
  dsimp only
  rw [text.unfiled, if_neg Bool.false_ne_true]
  cases special : isSpecial scheme with
  | true =>
      rw [if_pos rfl, List.dropWhile_cons_of_pos rfl, List.dropWhile_cons_of_pos rfl,
        dropWhile_separators true a _ text.authority.inside (text.authority.named special), hosted, special]
  | false =>
      rw [if_neg Bool.false_ne_true, ← special]
      exact hosted

end AddressText

/-! ## The same address -/

/-- The port that is asked: the one of the scheme where none is told. -/
def effectivePort (url : Url) : Option Nat := url.port.or (defaultPort? url.scheme)

/-- A URL that is another one without user information, query and fragment. -/
structure IsAddressOf (other url : Url) : Prop where
  scheme : other.scheme = url.scheme
  host : other.host = url.host
  port : other.effectivePort = url.effectivePort
  path : other.path = url.path
  nobody : other.username = [] ∧ other.password = []
  unqueried : other.query = none
  unmarked : other.fragment = none

/-- A text that is read as the address of a URL. -/
def AddressedBy (url : Url) (text : List Char) : Prop :=
  ∃ other, parse text = .ok other ∧ other.IsAddressOf url

theorem kept_or (scheme : List Char) (a b : Option Nat) :
    (keptPort scheme a).or (defaultPort? scheme) = (keptPort scheme b).or (defaultPort? scheme) ↔
      keptPort scheme a = keptPort scheme b := by
  have kept : ∀ port n, keptPort scheme port = some n → defaultPort? scheme ≠ some n := by
    intro port n held own
    simp [keptPort, Option.filter_eq_some_iff, own] at held
  refine ⟨fun same => ?_, fun same => by rw [same]⟩
  cases first : keptPort scheme a with
  | none =>
      cases second : keptPort scheme b with
      | none => rfl
      | some n =>
          rw [first, second] at same
          exact absurd same (kept b n second)
  | some n =>
      cases second : keptPort scheme b with
      | none =>
          rw [first, second] at same
          exact absurd same.symm (kept a n first)
      | some m =>
          rw [first, second] at same
          exact same

/-- A text with the path of a URL is read as its address exactly when the authority there tells the host
and the port of the URL. -/
theorem AddressText.addressedBy_iff {url : Url} {a : List Char} {list : List (List Char)}
    (text : AddressText url.scheme a list) (path : url.urlPath = .segments list)
    (kept : keptPort url.scheme url.port = url.port) :
    url.AddressedBy (url.scheme ++ "://".toList ++ a ++ url.path) ↔
      ∃ host port, asked (isSpecial url.scheme) a = .ok (host, port) ∧ url.host = some host ∧
        keptPort url.scheme port = url.port := by
  have rendered : url.path = Path.render list := by rw [Url.path, path]
  unfold AddressedBy
  rw [rendered, text.parse_eq]
  cases asked (isSpecial url.scheme) a with
  | error e =>
      constructor
      · rintro ⟨other, read, -⟩
        cases read
      · rintro ⟨host, port, read, -⟩
        cases read
  | ok pair =>
      obtain ⟨host, port⟩ := pair
      constructor
      · rintro ⟨other, read, same⟩
        cases read
        refine ⟨host, port, rfl, same.host.symm, ?_⟩
        rw [← kept]
        apply (kept_or _ _ _).mp
        rw [kept]
        exact same.port
      · rintro ⟨_, _, read, named, ported⟩
        cases read
        refine ⟨_, rfl, rfl, named.symm, ?_, rendered.symm, ⟨rfl, rfl⟩, rfl, rfl⟩
        change (keptPort url.scheme port).or _ = _
        rw [ported]
        rfl

theorem AddressText.addressedBy_read_iff {url : Url} {a : List Char} {list : List (List Char)}
    (text : AddressText url.scheme a list) (path : url.urlPath = .segments list) (name : List Char)
    (port : Option Nat) (ported : url.port = keptPort url.scheme port)
    (told : asked (isSpecial url.scheme) a =
      (Host.readIn (isSpecial url.scheme) name).map fun host => (host, port)) :
    url.AddressedBy (url.scheme ++ "://".toList ++ a ++ url.path) ↔
      ∃ host, url.host = some host ∧ Host.readIn (isSpecial url.scheme) name = .ok host := by
  have kept : keptPort url.scheme url.port = url.port := by
    rw [ported, keptPort_twice]
  rw [text.addressedBy_iff path kept, told]
  cases Host.readIn (isSpecial url.scheme) name with
  | error e => simp [Except.map]
  | ok found =>
      constructor
      · rintro ⟨host, port, same, named, -⟩
        cases same
        exact ⟨found, named, rfl⟩
      · rintro ⟨host, named, same⟩
        cases same
        exact ⟨found, port, rfl, named, ported.symm⟩

/-! ## How a text was read -/

/-- How the text behind a scheme, other than that of files, gives a URL. -/
inductive ReadBehind (scheme : List Char) : List Char → Url → Prop
  | special (rest behind : List Char) (place : Place) (special : isSpecial scheme = true)
      (read : placeAhead true (rest.dropWhile (Path.isSeparator true)) = .ok (place, behind)) :
      ReadBehind scheme rest (placed scheme place behind)
  | plain (rest behind : List Char) (place : Place) (unspecial : isSpecial scheme = false)
      (read : placeAhead false rest = .ok (place, behind)) :
      ReadBehind scheme ('/' :: '/' :: rest) (placed scheme place behind)
  | hostless (rest : List Char) (url : Url) (unspecial : isSpecial scheme = false)
      (unslashed : ∀ more, rest ≠ '/' :: '/' :: more) (named : url.scheme = scheme)
      (nobody : url.host = none) : ReadBehind scheme rest url

theorem ReadBehind.scheme_eq {scheme rest : List Char} {url : Url} (read : ReadBehind scheme rest url) :
    url.scheme = scheme := by
  cases read with
  | special rest behind place special read => rfl
  | plain rest behind place unspecial read => rfl
  | hostless rest url unspecial unslashed named nobody => exact named

theorem parsePlain_behind (scheme rest : List Char) (url : Url) (unspecial : isSpecial scheme = false)
    (read : parsePlain scheme rest = .ok url) : ReadBehind scheme rest url := by
  have named := parsePlain_scheme scheme rest url read
  unfold parsePlain at read
  split at read
  · rename_i more
    obtain ⟨place, behind, found, rfl⟩ := parseHosted_ok scheme more url read
    rw [unspecial] at found
    exact .plain more behind place unspecial found
  · rename_i unslashed
    cases read
    exact .hostless _ _ unspecial (fun more same => unslashed more (List.cons.inj same).2) named rfl
  · rename_i unslashed _
    cases read
    exact .hostless _ _ unspecial unslashed named rfl

def parseBehind (scheme rest : List Char) : Except UrlError Url :=
  if isFile scheme then parseFile rest
  else if isSpecial scheme then parseHosted scheme (rest.dropWhile (Path.isSeparator true))
  else parsePlain scheme rest

theorem parse_cut (text : List Char) (url : Url) (read : parse text = .ok url) :
    ∃ raw rest, cleaned text = raw ++ ':' :: rest ∧ isBare raw = true ∧
      parseBehind (Text.lower raw) rest = .ok url := by
  rw [parse_eq] at read
  unfold parseSolid at read
  split at read
  · cases read
  · rename_i scheme rest found
    obtain ⟨raw, shape, bare, rfl⟩ := splitScheme_some _ _ _ found
    exact ⟨raw, rest, shape, bare, read⟩

theorem parse_behind (text : List Char) (url : Url) (read : parse text = .ok url)
    (unfiled : isFile url.scheme = false) :
    ∃ raw rest, cleaned text = raw ++ ':' :: rest ∧ isBare raw = true ∧
      ReadBehind (Text.lower raw) rest url := by
  obtain ⟨raw, rest, shape, bare, read⟩ := parse_cut text url read
  refine ⟨raw, rest, shape, bare, ?_⟩
  unfold parseBehind at read
  split at read
  · rw [parseFile_scheme _ url read] at unfiled
    cases unfiled
  · split at read
    · rename_i special
      obtain ⟨place, behind, found, rfl⟩ := parseHosted_ok _ _ url read
      rw [special] at found
      exact .special rest behind place special found
    · rename_i unspecial
      exact parsePlain_behind _ rest url (Bool.eq_false_iff.mpr unspecial) read

theorem addressText_of_placed (raw rest a : List Char) (place : Place) (bare : isBare raw = true)
    (unfiled : isFile (Text.lower raw) = false) (authority : Plain (isSpecial (Text.lower raw)) a) :
    ∃ list, (placed (Text.lower raw) place rest).urlPath = .segments list ∧
      AddressText (Text.lower raw) a list := by
  obtain ⟨bare, lowered⟩ := isBare_lower raw bare
  obtain ⟨rooted, settled⟩ := hostedPath_settledIn (isSpecial (Text.lower raw)) (splitPath rest).1
  exact ⟨_, rfl, bare, lowered, unfiled, authority, rooted, settled⟩

theorem parse_slashed_host (scheme rest : List Char) (other : Url) (bare : isBare scheme = true)
    (lowered : Text.lower scheme = scheme) (unfiled : isFile scheme = false)
    (unspecial : isSpecial scheme = false) (read : parse (scheme ++ "://".toList ++ rest) = .ok other) :
    other.host ≠ none := by
  have solid : (scheme ++ "://".toList).all isSolid = true := by
    rw [List.all_append, solid_of_bare scheme bare]
    rfl
  obtain ⟨kept, whole⟩ := cleaned_front (scheme ++ "://".toList) rest solid (by simp)
  have shape : scheme ++ "://".toList ++ kept = scheme ++ ':' :: '/' :: '/' :: kept := by simp
  rw [parse_eq, whole, shape] at read
  unfold parseSolid at read
  rw [splitScheme_bare scheme _ bare, lowered] at read
  dsimp only at read
  rw [unfiled, if_neg Bool.false_ne_true, unspecial, if_neg Bool.false_ne_true] at read
  change parseHosted scheme kept = _ at read
  obtain ⟨place, behind, -, rfl⟩ := parseHosted_ok scheme kept other read
  exact Option.some_ne_none _

end AccessGate.Url
