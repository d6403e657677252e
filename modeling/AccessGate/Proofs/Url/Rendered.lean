import AccessGate.Proofs.Url.HostText
import AccessGate.Proofs.Url.Prefix
import AccessGate.Proofs.Url.Reading

/-!
URLs of web servers and their texts. The text in front of the path is read back as it was written,
except that the host is looked at again.
-/

namespace AccessGate.Url

def IsWeb (scheme : List Char) : Prop := scheme = "http".toList ∨ scheme = "https".toList

theorem isWeb_special (scheme : List Char) (web : IsWeb scheme) :
    isSpecial scheme = true ∧ isFile scheme = false ∧ isBare scheme = true ∧
      Text.lower scheme = scheme := by
  rcases web with rfl | rfl
  · decide
  · decide

/-- A URL as it is read behind the scheme of a web server. -/
structure Hosted (url : Url) (host : Host) (list : List (List Char)) : Prop where
  web : IsWeb url.scheme
  username : ∃ cs, url.username = Percent.encode escapedInUserInfo cs
  password : ∃ cs, url.password = Percent.encode escapedInUserInfo cs
  hosted : url.host = some host
  host_read : ∃ cs, Host.parse cs = .ok host
  port_fits : ∀ port, url.port = some port → port ≤ 65535
  port_kept : keptPort url.scheme url.port = url.port
  path : url.urlPath = .segments list
  rooted : list ≠ []
  settled : ∀ segment ∈ list, Path.Settled segment

/-! ## What reading leaves behind -/

theorem keptPort_twice (scheme : List Char) (port : Option Nat) :
    keptPort scheme (keptPort scheme port) = keptPort scheme port := by
  cases port with
  | none => rfl
  | some port =>
      by_cases own : defaultPort? scheme = some port
      · simp [keptPort, own]
      · simp [keptPort]

theorem credentials_encoded (cs : List Char) :
    (∃ name, (credentials cs).username = Percent.encode escapedInUserInfo name) ∧
      ∃ word, (credentials cs).password = Percent.encode escapedInUserInfo word :=
  ⟨⟨_, rfl⟩, _, rfl⟩

theorem splitCredentials_encoded (special : Bool) (cs rest : List Char) (who : Credentials)
    (read : splitCredentials special cs = .ok (who, rest)) :
    (∃ name, who.username = Percent.encode escapedInUserInfo name) ∧
      ∃ word, who.password = Percent.encode escapedInUserInfo word := by
  unfold splitCredentials at read
  dsimp only at read
  split at read
  · split at read
    · cases read
    · cases read
      exact credentials_encoded _
  · cases read
    exact ⟨⟨[], rfl⟩, [], rfl⟩

theorem portAhead_fits (cs rest : List Char) (port : Option Nat)
    (read : portAhead cs = .ok (port, rest)) : ∀ n, port = some n → n ≤ 65535 := by
  unfold portAhead at read
  split at read
  · exact (portBehind_ok _ rest port read).2.2
  · cases read
    intro n written
    cases written

theorem placeAhead_parts (cs rest : List Char) (place : Place)
    (read : placeAhead true cs = .ok (place, rest)) :
    (∃ name, place.who.username = Percent.encode escapedInUserInfo name) ∧
      (∃ word, place.who.password = Percent.encode escapedInUserInfo word) ∧
      (∃ text, Host.parse text = .ok place.host) ∧ ∀ n, place.port = some n → n ≤ 65535 := by
  obtain ⟨b, d, first, second, third⟩ := place_ok true (splitCredentials true cs) place rest read
  obtain ⟨name, word⟩ := splitCredentials_encoded true cs b place.who first
  exact ⟨name, word, ⟨_, (splitHost_ok true b d place.host second).1⟩, portAhead_fits d rest place.port third⟩

theorem hostedPath_settledIn (special : Bool) (cs : List Char) :
    (special = true → hostedPath false special cs ≠ []) ∧
      ∀ segment ∈ hostedPath false special cs, Path.SettledIn special segment := by
  have some_ : ∀ rest, Path.segments false special rest ≠ [] := by
    intro rest nothing
    rw [Path.segments_web, List.reverse_eq_nil_iff] at nothing
    exact Path.walk_ne_nil [] _ (Path.steps_ne_nil special rest) nothing
  unfold hostedPath
  split
  · cases special with
    | true =>
        refine ⟨fun _ => by simp, ?_⟩
        intro segment member
        rw [if_pos rfl] at member
        rw [List.mem_singleton.mp member]
        exact Path.settled_nil.within true
    | false => exact ⟨(fun never => by cases never), by simp⟩
  · split
    · exact ⟨fun _ => some_ _, Path.segments_settledIn special _⟩
    · exact ⟨fun _ => some_ _, Path.segments_settledIn special _⟩

theorem hostedPath_web (cs : List Char) :
    hostedPath false true cs ≠ [] ∧ ∀ segment ∈ hostedPath false true cs, Path.Settled segment := by
  obtain ⟨rooted, settled⟩ := hostedPath_settledIn true cs
  exact ⟨rooted rfl, fun segment member => (settled segment member).settled⟩

theorem hosted_of_placed (scheme rest : List Char) (place : Place) (web : IsWeb scheme)
    (who : (∃ name, place.who.username = Percent.encode escapedInUserInfo name) ∧
      ∃ word, place.who.password = Percent.encode escapedInUserInfo word)
    (named : ∃ text, Host.parse text = .ok place.host) (fits : ∀ n, place.port = some n → n ≤ 65535) :
    ∃ list, Hosted (placed scheme place rest) place.host list := by
  have special := (isWeb_special scheme web).1
  obtain ⟨rooted, settled⟩ := hostedPath_web (splitPath rest).1
  refine ⟨_, web, who.1, who.2, rfl, named, ?_, keptPort_twice scheme place.port, rfl, ?_, ?_⟩
  · intro port written
    exact fits port (Option.filter_eq_some_iff.mp written).1
  · rw [special]
    exact rooted
  · rw [special]
    exact settled

theorem parseFile_scheme (cs : List Char) (url : Url) (read : parseFile cs = .ok url) :
    url.scheme = "file".toList := by
  cases parseFile_ok cs url read with
  | unhosted => rfl
  | hosted => rfl

theorem parseHosted_scheme (scheme cs : List Char) (url : Url)
    (read : parseHosted scheme cs = .ok url) : url.scheme = scheme := by
  obtain ⟨place, rest, -, rfl⟩ := parseHosted_ok scheme cs url read
  rfl

theorem parsePlain_scheme (scheme cs : List Char) (url : Url)
    (read : parsePlain scheme cs = .ok url) : url.scheme = scheme := by
  unfold parsePlain at read
  split at read
  · exact parseHosted_scheme scheme _ url read
  · cases read
    rfl
  · cases read
    rfl

-- Only one branch of the reader gives such a scheme: the others give the scheme of files, or one that
-- is not special.
theorem hosted_of_parse (text : List Char) (url : Url) (read : parse text = .ok url)
    (web : IsWeb url.scheme) : ∃ host list, Hosted url host list := by
  rw [parse_eq] at read
  unfold parseSolid at read
  split at read
  · cases read
  · rename_i scheme rest _
    split at read
    · rename_i file
      rw [parseFile_scheme _ url read] at web
      exact absurd web (by unfold IsWeb; decide)
    · split at read
      · rename_i special
        obtain ⟨place, behind, found, rfl⟩ := parseHosted_ok scheme _ url read
        rw [special] at found
        obtain ⟨name, word, named, fits⟩ := placeAhead_parts _ _ place found
        obtain ⟨list, hosted⟩ := hosted_of_placed scheme behind place web ⟨name, word⟩ named fits
        exact ⟨_, list, hosted⟩
      · rename_i plain
        rw [parsePlain_scheme _ _ url read] at web
        exact absurd (isWeb_special scheme web).1 plain

/-! ## The text in front of the path -/

/-- Who is asked where, as it stands in the text of a URL. -/
def front (url : Url) : List Char := url.userInfo ++ url.authority

theorem encoded_inside (cs : List Char) : Inside true (Percent.encode escapedInUserInfo cs) ∧
    '@' ∉ Percent.encode escapedInUserInfo cs := by
  have ends : ∀ c, endsAuthority true c = true → escapedInUserInfo c = true := by
    intro c closes
    simp only [endsAuthority, endsPath, Bool.true_and, Bool.or_eq_true, beq_iff_eq] at closes
    rcases closes with (rfl | rfl | rfl) | rfl
    · decide
    · decide
    · decide
    · decide
  have signs : ∀ c ∈ Percent.signs, endsAuthority true c = false :=
    Text.each_of_all Percent.signs _ (by decide)
  constructor
  · intro c member
    rcases Percent.mem_encode _ cs c member with ⟨-, -, kept⟩ | sign
    · cases closes : endsAuthority true c with
      | false => rfl
      | true =>
          rw [ends c closes] at kept
          cases kept
    · exact signs c sign
  · exact Percent.not_mem_encode _ cs '@' (by decide) (by decide)

theorem userInfo_shape (url : Url) (username : ∃ cs, url.username = Percent.encode escapedInUserInfo cs)
    (password : ∃ cs, url.password = Percent.encode escapedInUserInfo cs) :
    url.userInfo = [] ∨ ∃ info, url.userInfo = info ++ ['@'] ∧ Inside true info ∧ '@' ∉ info := by
  obtain ⟨name, named⟩ := username
  obtain ⟨word, worded⟩ := password
  obtain ⟨nameInside, nameFree⟩ := encoded_inside name
  obtain ⟨wordInside, wordFree⟩ := encoded_inside word
  rw [← named] at nameInside nameFree
  rw [← worded] at wordInside wordFree
  unfold userInfo
  dsimp only
  by_cases nobody : (url.username.isEmpty && url.password.isEmpty) = true
  · exact .inl (if_pos nobody)
  · right
    rw [if_neg nobody]
    by_cases unworded : url.password.isEmpty = true
    · rw [if_pos unworded, List.append_nil]
      exact ⟨url.username, rfl, nameInside, nameFree⟩
    · rw [if_neg unworded]
      refine ⟨url.username ++ ':' :: url.password, rfl, ?_, ?_⟩
      · intro c member
        rcases List.mem_append.mp member with first | second
        · exact nameInside c first
        · rcases List.mem_cons.mp second with rfl | inner
          · rfl
          · exact wordInside c inner
      · intro member
        rcases List.mem_append.mp member with first | second
        · exact nameFree first
        · rcases List.mem_cons.mp second with other | inner
          · cases other
          · exact wordFree inner

theorem parseSolid_web (scheme a rest : List Char) (web : IsWeb scheme) (inside : Inside true a)
    (named : a ≠ []) (rooted : rest.head? = some '/') :
    parseSolid (scheme ++ "://".toList ++ (a ++ rest)) =
      (placeIn true false a).map fun (place, e) => placed scheme place (e ++ rest) := by
  obtain ⟨special, unfiled, bare, lowered⟩ := isWeb_special scheme web
  have closes : Closes true rest := by
    intro c first
    cases rooted.symm.trans first
    rfl
  have more : rest.isEmpty = false := by
    cases rest with
    | nil => cases rooted
    | cons c rest => rfl
  have text : scheme ++ "://".toList ++ (a ++ rest) = scheme ++ ':' :: '/' :: '/' :: (a ++ rest) := by
    simp
  have dropped : ('/' :: '/' :: (a ++ rest)).dropWhile (Path.isSeparator true) = a ++ rest := by
    rw [List.dropWhile_cons_of_pos rfl, List.dropWhile_cons_of_pos rfl,
      dropWhile_separators true a rest inside named]
  unfold parseSolid
  rw [text, splitScheme_bare scheme _ bare, lowered]
  dsimp only
  rw [unfiled, if_neg Bool.false_ne_true, special, if_pos rfl, dropped, parseHosted_eq, special,
    placeAhead_append true a rest inside closes, more]
  cases placeIn true false a with
  | error e => rfl
  | ok pair => rfl

namespace Hosted

variable {url : Url} {host : Host} {list : List (List Char)}

theorem host_text (hosted : Hosted url host list) : HostText host.render := by
  obtain ⟨cs, read⟩ := hosted.host_read
  exact hostText_of_parse cs host read

def portText : Option Nat → List Char
  | some port => ':' :: Text.natText port
  | none => []

theorem authority_of_host {url : Url} {host : Host} (named : url.host = some host) :
    url.authority = host.render ++ portText url.port := by
  have text : url.hostText = host.render := by
    rw [hostText, named]
    rfl
  unfold authority
  rw [text]
  cases url.port with
  | none => simp [portText]
  | some port => rfl

theorem authority_eq (hosted : Hosted url host list) :
    url.authority = host.render ++ portText url.port :=
  authority_of_host hosted.hosted

theorem portText_chars (port : Option Nat) : Inside true (portText port) ∧ '@' ∉ portText port := by
  cases port with
  | none => exact ⟨List.forall_mem_nil _, List.not_mem_nil⟩
  | some port =>
      constructor
      · intro c member
        rcases List.mem_cons.mp member with rfl | digit
        · rfl
        · exact isDigit_not_ends true c (Text.natText_digits port c digit)
      · intro user
        rcases List.mem_cons.mp user with other | digit
        · cases other
        · cases Text.natText_digits port '@' digit

theorem portText_ahead (special : Bool) (port : Option Nat) (fits : ∀ n, port = some n → n ≤ 65535) :
    hostLength special false (portText port) = 0 ∧ portAhead (portText port) = .ok (port, []) := by
  cases port with
  | none => exact ⟨rfl, rfl⟩
  | some port =>
      refine ⟨?_, portBehind_natText port (fits port rfl)⟩
      rw [portText, hostLength, if_pos (by simp)]

theorem authority_chars (hosted : Hosted url host list) :
    Inside true url.authority ∧ '@' ∉ url.authority := by
  obtain ⟨portInside, portFree⟩ := portText_chars url.port
  rw [hosted.authority_eq]
  constructor
  · intro c member
    rcases List.mem_append.mp member with name | port
    · exact hosted.host_text.inside c name
    · exact portInside c port
  · intro user
    rcases List.mem_append.mp user with name | port
    · exact hosted.host_text.no_user name
    · exact portFree port

theorem front_inside (hosted : Hosted url host list) : Inside true url.front := by
  intro c member
  rcases List.mem_append.mp member with info | authority
  · rcases userInfo_shape url hosted.username hosted.password with none_ | ⟨name, shape, inside, -⟩
    · rw [none_] at info
      cases info
    · rw [shape] at info
      rcases List.mem_append.mp info with inner | mark
      · exact inside c inner
      · rw [List.mem_singleton.mp mark]
        rfl
  · exact hosted.authority_chars.1 c authority

theorem front_ne_nil (hosted : Hosted url host list) : url.front ≠ [] := by
  intro nothing
  rw [front, hosted.authority_eq] at nothing
  exact hosted.host_text.named (List.append_eq_nil_iff.mp (List.append_eq_nil_iff.mp nothing).2).1

theorem infoIn_userInfo (hosted : Hosted url host list) (place : List Char) (free : '@' ∉ place)
    (named : place ≠ []) :
    ∃ who, infoIn false (url.userInfo ++ place) = .ok (who, place) := by
  unfold infoIn
  rcases userInfo_shape url hosted.username hosted.password with none_ | ⟨info, shape, -, -⟩
  · have unmarked : place.contains '@' = false :=
      Bool.eq_false_iff.mpr fun marked => free (List.contains_iff_mem.mp marked)
    refine ⟨⟨[], []⟩, ?_⟩
    rw [none_, List.nil_append, unmarked, if_neg Bool.false_ne_true]
  · have behind : Text.Behind '@' (info ++ ['@']) place := ⟨free, .inr (by simp)⟩
    have taken := Text.takeWhile_behind '@' _ _ behind
    have marked : (info ++ ['@'] ++ place).contains '@' = true := by simp
    have some_ : place.isEmpty = false := by simp [named]
    have size : (info ++ ['@'] ++ place).length - place.length - 1 = info.length := by
      simp only [List.length_append, List.length_singleton]
      omega
    refine ⟨credentials info, ?_⟩
    rw [shape]
    simp only [marked, if_true, taken, List.reverse_reverse, size, some_, Bool.false_eq_true,
      false_and, and_false, if_false]
    rw [List.append_assoc, List.take_left]

theorem splitHost_authority (hosted : Hosted url host list) :
    splitHost true url.authority =
      (Host.parse host.render).map fun asked => (asked, portText url.port) := by
  rw [hosted.authority_eq]
  exact hosted.host_text.splitHost_ahead true _ (portText_ahead true url.port hosted.port_fits).1

theorem portAhead_portText (hosted : Hosted url host list) :
    portAhead (portText url.port) = .ok (url.port, []) :=
  (portText_ahead true url.port hosted.port_fits).2

theorem placeIn_front (hosted : Hosted url host list) :
    ∃ who, placeIn true false url.front =
      (Host.parse host.render).map fun asked => (⟨who, asked, url.port⟩, []) := by
  have named : url.authority ≠ [] := by
    rw [hosted.authority_eq]
    simp [hosted.host_text.named]
  obtain ⟨who, first⟩ := hosted.infoIn_userInfo _ hosted.authority_chars.2 named
  refine ⟨who, ?_⟩
  have second := hosted.splitHost_authority
  have third := hosted.portAhead_portText
  unfold placeIn front
  rw [first]
  simp only [bind, Except.bind]
  rw [second]
  cases parsed : Host.parse host.render with
  | error e => rfl
  | ok asked =>
      have known : asked ≠ .domain [] := by
        rintro rfl
        exact (hostText_of_parse _ _ parsed).named rfl
      simp only [Except.map]
      rw [third]
      simp only [known, false_and, if_false]
      rfl

theorem parseSolid_front (hosted : Hosted url host list) (rest : List Char)
    (rooted : rest.head? = some '/') :
    ∃ who, parseSolid (url.scheme ++ "://".toList ++ (url.front ++ rest)) =
      (Host.parse host.render).map fun asked => placed url.scheme ⟨who, asked, url.port⟩ rest := by
  obtain ⟨who, place⟩ := hosted.placeIn_front
  refine ⟨who, ?_⟩
  rw [parseSolid_web url.scheme url.front rest hosted.web hosted.front_inside hosted.front_ne_nil
    rooted, place]
  cases Host.parse host.render with
  | error e => rfl
  | ok asked => rfl

/-! ## The text of the URL -/

theorem path_eq (hosted : Hosted url host list) : url.path = Path.render list := by
  unfold Url.path
  rw [hosted.path]

theorem dropEnd_path (hosted : Hosted url host list) :
    Text.dropEnd '/' url.path = Path.render (Path.trimmed list) := by
  rw [hosted.path_eq]
  apply Path.dropEnd_render
  intro segment member slash
  cases (hosted.settled segment member).whole '/' slash

theorem dropEnd_render (hosted : Hosted url host list) (unqueried : url.query = none)
    (unmarked : url.fragment = none) :
    Text.dropEnd '/' url.render =
      url.scheme ++ "://".toList ++ (url.front ++ Path.render (Path.trimmed list)) := by
  have text : url.render = (url.scheme ++ "://".toList ++ url.front) ++ url.path := by
    have before : url.beforePath = "//".toList ++ url.front := by
      simp [beforePath, hosted.hosted, front]
    rw [render, unqueried, unmarked, before]
    simp [marked]
  have ends : (url.scheme ++ "://".toList ++ url.front).getLast? ≠ some '/' := by
    intro slash
    obtain ⟨c, last⟩ := Option.isSome_iff_exists.mp (List.getLast?_isSome.mpr hosted.front_ne_nil)
    rw [List.getLast?_append, last] at slash
    cases slash
    cases hosted.front_inside '/' (List.mem_of_getLast? last)
  rw [text, Text.dropEnd_append '/' _ _ ends, hosted.dropEnd_path, List.append_assoc]

end Hosted

end AccessGate.Url
