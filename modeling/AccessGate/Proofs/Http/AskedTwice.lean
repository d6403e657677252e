import AccessGate.Proofs.Http.TargetText
import AccessGate.Proofs.Url.OwnAuthority
import AccessGate.Proofs.Url.PlainName

/-!
Texts that are read twice, as the target of a request and as a URL. Where the target has an authority, its
normal form tells the host and the port of the URL or it does not, by the form of the target.
-/

namespace AccessGate

open Text (lower)
open Http.Authority (afterLast normal Accepted isWithin)

namespace Url

/-! ## The same authority -/

theorem infoIn_place (last : Bool) (a b : List Char) (who : Credentials)
    (read : infoIn last a = .ok (who, b)) : b = afterLast '@' a := by
  unfold infoIn at read
  split at read
  · dsimp only at read
    split at read
    · cases read
    · cases read
      rfl
  · rename_i unmarked
    cases read
    exact (Http.Authority.afterLast_unmarked '@' a fun user => unmarked (List.contains_iff_mem.mpr user)).symm

/-- The place that is read from an authority stands behind its last sign of a user. -/
theorem place_afterLast (special : Bool) (name kept behind : List Char) (place : Place)
    (inside : Inside true name) (closes : Closes special kept)
    (read : placeAhead special (name ++ kept) = .ok (place, behind)) :
    ∃ d e, splitHost special (afterLast '@' name) = .ok (place.host, d) ∧
      portAhead d = .ok (place.port, e) := by
  rw [placeAhead_append special name kept (inside_any special name inside) closes] at read
  cases found : placeIn special kept.isEmpty name with
  | error e =>
      rw [found] at read
      cases read
  | ok pair =>
      obtain ⟨other, e⟩ := pair
      rw [found] at read
      cases read
      obtain ⟨b, d, first, second, third⟩ := place_ok special (infoIn kept.isEmpty name) place e found
      rw [infoIn_place _ name b place.who first] at second
      exact ⟨d, e, second, third⟩

theorem addressedBy_normal_iff (raw name behind d e : List Char) (place : Place) (bare : isBare raw = true)
    (unfiled : isFile (lower raw) = false) (accepted : Accepted name) (within : name.all isWithin = true)
    (named : splitHost (isSpecial (lower raw)) (afterLast '@' name) = .ok (place.host, d))
    (ported : portAhead d = .ok (place.port, e)) :
    let url := placed (lower raw) place behind
    url.AddressedBy (url.scheme ++ "://".toList ++ normal name ++ url.path) ↔
      isSpecial url.scheme = true ∨ lower url.hostText = url.hostText := by
  intro url
  obtain ⟨text, suffix, shape, parts⟩ :=
    Http.Authority.place_parts _ name d e place.host place.port accepted within named ported
  rw [Http.Authority.normal_afterLast, shape]
  obtain ⟨list, segments, address⟩ := addressText_of_placed raw behind _ place bare unfiled parts.plain_normal
  refine (address.addressedBy_read_iff segments (lower text) place.port rfl parts.asked_normal).trans ?_
  refine Iff.trans ?_ parts.read_lower_iff
  constructor
  · rintro ⟨host, same, read⟩
    cases same
    exact read
  · exact fun read => ⟨place.host, rfl, read⟩

/-! ## Texts with two slashes -/

theorem uncoloned_of_bare (raw : List Char) (bare : isBare raw = true) : ':' ∉ raw := by
  simp only [isBare, Bool.and_eq_true] at bare
  intro colon
  cases List.all_eq_true.mp bare.2 ':' colon

theorem cleaned_absolute (raw name rest : List Char) (known : raw.all Http.Target.isSchemeChar = true)
    (within : name.all isWithin = true)
    (ends : ∀ c, rest.head? = some c → Http.Authority.endsAuthority c = true) :
    ∃ kept, cleaned (raw ++ ':' :: '/' :: '/' :: (name ++ rest)) =
      raw ++ ':' :: '/' :: '/' :: (name ++ kept) ∧ ∀ special, Closes special kept := by
  have solid : (raw ++ "://".toList ++ name).all isSolid = true := by
    rw [List.all_append, List.all_append]
    rw [Http.Target.solid_of_scheme raw known, Http.Authority.solid_of_within name within]
    rfl
  have marks : ∀ c, rest.head? = some c → c = '/' ∨ c = '?' ∨ c = '#' := by
    intro c first
    have known := ends c first
    simp only [Http.Authority.endsAuthority, Bool.or_eq_true, beq_iff_eq] at known
    tauto
  obtain ⟨kept, whole, same⟩ := cleaned_head _ rest solid (by simp) (fun c first => by
    rcases marks c first with rfl | rfl | rfl <;> decide)
  refine ⟨kept, by simpa using whole, fun special c first => ?_⟩
  rw [same] at first
  rcases marks c first with rfl | rfl | rfl <;> rfl

theorem absolute_split (front name more raw rest : List Char)
    (known : front.all Http.Target.isSchemeChar = true) (within : name.all isWithin = true)
    (ends : ∀ c, more.head? = some c → Http.Authority.endsAuthority c = true) (bare : isBare raw = true)
    (whole : cleaned (front ++ ':' :: '/' :: '/' :: (name ++ more)) = raw ++ ':' :: rest) :
    ∃ kept, front = raw ∧ '/' :: '/' :: (name ++ kept) = rest ∧ ∀ special, Closes special kept := by
  obtain ⟨kept, shape, closes⟩ := cleaned_absolute front name more known within ends
  have unmarked : ':' ∉ front := by
    intro colon
    cases List.all_eq_true.mp known ':' colon
  obtain ⟨scheme, behind⟩ := Text.first_unique ':' front _ raw rest unmarked (uncoloned_of_bare raw bare)
    (shape.symm.trans whole)
  exact ⟨kept, scheme, behind, closes⟩

theorem absolute_iff (text : List Char) (url : Url) (scheme name path : List Char)
    (query : Option (List Char)) (read : parse text = .ok url) (unfiled : isFile url.scheme = false)
    (target : Http.Target.TextOf (.absolute scheme name path query) text) :
    url.AddressedBy (url.scheme ++ "://".toList ++ normal name ++ url.path) ↔
      isSpecial url.scheme = true ∨ lower url.hostText = url.hostText := by
  obtain ⟨raw, rest, whole, bare, behind⟩ := parse_behind text url read unfiled
  rw [behind.scheme_eq] at unfiled
  cases target with
  | absolute front _ _ _ more _ known accepted within ends =>
      obtain ⟨kept, rfl, rfl, closes⟩ := absolute_split front name more raw rest known within ends bare whole
      have inside := Http.Authority.inside_of_within name within
      cases behind with
      | special rest behind place special found =>
          rw [List.dropWhile_cons_of_pos rfl, List.dropWhile_cons_of_pos rfl,
            dropWhile_separators true name kept inside accepted.named] at found
          obtain ⟨d, e, named, ported⟩ := place_afterLast true name kept behind place inside (closes true) found
          rw [← special] at named
          exact addressedBy_normal_iff front name behind d e place bare unfiled accepted within named ported
      | plain rest behind place unspecial found =>
          obtain ⟨d, e, named, ported⟩ :=
            place_afterLast false name kept behind place inside (closes false) found
          rw [← unspecial] at named
          exact addressedBy_normal_iff front name behind d e place bare unfiled accepted within named ported
      | hostless rest url unspecial unslashed named nobody => exact absurd rfl (unslashed _)

/-! ## Texts without slashes -/

theorem afterLast_append (mark : Char) (front rest : List Char) (member : mark ∈ rest) :
    afterLast mark (front ++ rest) = afterLast mark rest := by
  obtain ⟨info, whole, behind⟩ := Http.Authority.afterLast_parts mark rest
  have some_ : info ≠ [] := by
    rintro rfl
    rw [List.nil_append] at whole
    rw [whole] at member
    exact behind.unmarked member
  have longer : Text.Behind mark (front ++ info) (afterLast mark rest) := by
    refine ⟨behind.unmarked, .inr ?_⟩
    rw [List.getLast?_append, behind.ends.resolve_left some_]
    rfl
  have found := Http.Authority.afterLast_behind mark _ _ longer
  rwa [List.append_assoc, ← whole] at found

theorem normal_coloned (raw rest : List Char) (bare : isBare raw = true)
    (free : '@' ∉ raw ++ ':' :: rest) :
    normal (raw ++ ':' :: rest) =
      lower raw ++ Hosted.portText (Text.unsigned? 65535 (afterLast ':' (':' :: rest))) := by
  have uncoloned : ∀ c ∈ raw, (c != ':') = true := by
    intro c member
    exact bne_iff_ne.mpr fun colon => uncoloned_of_bare raw bare (colon ▸ member)
  have taken := Text.takeWhile_all (· != ':') raw (':' :: rest) uncoloned (by
    intro c first
    cases first
    rfl)
  have named : Http.Authority.host (raw ++ ':' :: rest) = raw := by
    unfold Http.Authority.host
    rw [Http.Authority.afterLast_unmarked '@' _ free]
    dsimp only
    split
    · rename_i shape
      cases raw with
      | nil => cases bare
      | cons c raw =>
          cases shape
          cases bare
    · exact taken
  have ported : Http.Authority.port? (raw ++ ':' :: rest) =
      Text.unsigned? 65535 (afterLast ':' (':' :: rest)) := by
    unfold Http.Authority.port?
    rw [if_pos (by simp), afterLast_append ':' raw _ List.mem_cons_self]
  unfold normal
  rw [named, ported]
  cases Text.unsigned? 65535 (afterLast ':' (':' :: rest)) with
  | none => simp [Hosted.portText]
  | some port => rfl

theorem rest_of_scheme (scheme raw rest d e : List Char) (port : Option Nat) (known : SchemeName scheme)
    (accepted : Accepted (raw ++ ':' :: rest)) (within : (raw ++ ':' :: rest).all isWithin = true)
    (bare : isBare raw = true)
    (named : splitHost true rest = .ok (.domain scheme, d)) (ported : portAhead d = .ok (port, e)) :
    lower rest = scheme := by
  obtain ⟨read, cut, -⟩ := splitHost_ok true rest d (.domain scheme) named
  have parts := List.take_append_drop (hostLength true false rest) rest
  rw [← cut] at parts
  have restWithin : ∀ c ∈ rest, isWithin c = true := fun c member =>
    List.all_eq_true.mp within c (List.mem_append_right _ (List.mem_cons_of_mem _ member))
  have inside : Inside true rest := fun c member => Http.Authority.not_ends_of_within c (restWithin c member)
  have coloned : ∀ c, d.head? = some c → c = ':' := by
    intro c first
    rw [cut] at first
    exact head_drop_hostLength true false rest c inside first
  have marks := Http.Authority.unmarked_of_read true _ (.domain scheme) read
  generalize rest.take (hostLength true false rest) = text at read parts marks
  have unbracketed : text.head? ≠ some '[' := by
    intro opened
    cases text with
    | nil => cases opened
    | cons c text =>
        cases opened
        obtain ⟨-, groups, -, -, other⟩ := bracketed_ok text _ read
        cases other
  have behind : ∀ c ∈ d, c = ':' ∨ c.isDigit = true := by
    refine (Http.Authority.portSuffix_of_ahead d e port (fun c member => inside c ?_) coloned ported).chars
    rw [← parts]
    exact List.mem_append_right _ member
  have unmarked : ∀ c ∈ raw ++ ':' :: rest, c ∉ "@[]".toList := by
    rw [← parts]
    intro c member listed
    simp only [List.mem_append, List.mem_cons] at member
    rcases member with front | rfl | first | second
    · have table : ∀ c ∈ "@[]".toList, isSchemeChar c = false := Text.each_of_all "@[]".toList _ (by decide)
      simp only [isBare, Bool.and_eq_true] at bare
      have known := List.all_eq_true.mp bare.2 c front
      rw [table c listed] at known
      cases known
    · exact absurd listed (by decide)
    · exact marks unbracketed c first (List.mem_cons_of_mem _ listed)
    · exact Http.Authority.unmarked_of_port c (behind c second) listed
  obtain ⟨unescaped, few⟩ := accepted.unmarked unmarked
  have uncoloned : ':' ∉ rest := by
    rw [List.count_append, List.count_cons_self] at few
    exact List.count_eq_zero.mp (by omega)
  have whole : text = rest := by
    cases d with
    | nil => rwa [List.append_nil] at parts
    | cons c d =>
        cases coloned c rfl
        exact absurd (by rw [← parts]; simp) uncoloned
  subst whole
  refine known.parse_source text (fun c member => ?_) (fun marked => unescaped ?_) unbracketed read
  · have small := (Http.Authority.ascii_of_within c (restWithin c member)).2
    omega
  · exact List.mem_append_right _ (List.mem_cons_of_mem _ marked)

theorem unsigned_le (largest : Nat) (cs : List Char) (n : Nat)
    (read : Text.unsigned? largest cs = some n) : n ≤ largest := by
  unfold Text.unsigned? at read
  dsimp only at read
  split at read
  · split at read
    · cases read
      assumption
    · cases read
  · cases read

theorem SchemeName.written {scheme : List Char} (known : SchemeName scheme) :
    HostText scheme ∧ scheme.all isSolid = true := by
  have table : ∀ c ∈ hostMarks, c.isAlpha = false := Text.each_of_all hostMarks _ (by decide)
  refine ⟨hostText_unmarked scheme known.named fun c member marked => ?_, List.all_eq_true.mpr fun c member =>
    isSolid_of_scheme c (isSchemeChar_of_letter c (known.letters c member))⟩
  have letter := known.letters c member
  rw [table c marked] at letter
  cases letter

theorem host_of_scheme (scheme : List Char) (networked : Networked scheme) (other : Url)
    (read : parse (scheme ++ "://".toList ++ scheme ++ ['/']) = .ok other) :
    other.host = some (.domain scheme) := by
  have known := schemeName networked
  obtain ⟨text, solid⟩ := known.written
  have bare : isBare scheme = true := by
    have chars : scheme.all isSchemeChar = true :=
      List.all_eq_true.mpr fun c member => isSchemeChar_of_letter c (known.letters c member)
    cases scheme with
    | nil => exact absurd rfl known.named
    | cons c scheme =>
        have letter := known.letters c List.mem_cons_self
        simp [isBare, chars, letter]
  have asked_ := text.asked_append true [] none rfl rfl
  have address : AddressText scheme scheme [[]] := by
    refine ⟨bare, known.lowered, networked.2, ?_, fun _ => List.cons_ne_nil _ _, fun segment member => ?_⟩
    · simpa [Hosted.portText] using text.plain solid (isSpecial scheme) none
    · rw [List.mem_singleton.mp member]
      exact Path.settled_nil.within _
  rw [List.append_nil] at asked_
  rw [show ['/'] = Path.render [[]] from rfl, address.parse_eq, networked.1, asked_] at read
  cases told : Host.readIn true scheme with
  | error e =>
      rw [told] at read
      cases read
  | ok host =>
      rw [told] at read
      cases read
      rw [known.parse_self host told]
      rfl

theorem scheme_behind (scheme rest : List Char) (known : SchemeName scheme) (same : lower rest = scheme) :
    splitHost true rest = (Host.parse scheme).map (fun host => (host, [])) ∧
      Text.unsigned? 65535 (afterLast ':' (':' :: rest)) = none := by
  have letters : ∀ c ∈ rest, c.isAlpha = true := by
    intro c member
    have low : c.toLower ∈ scheme := by
      rw [← same]
      exact List.mem_map_of_mem member
    rw [← Text.toLower_same Char.isAlpha (by decide) c]
    exact known.letters c.toLower low
  have named : rest ≠ [] := by
    rintro rfl
    exact known.named same.symm
  have table : ∀ c ∈ '%' :: hostMarks, c.isAlpha = false := Text.each_of_all ('%' :: hostMarks) _ (by decide)
  have unmarked : ∀ c ∈ rest, c ∉ '%' :: hostMarks := by
    intro c member marked
    have letter := letters c member
    rw [table c marked] at letter
    cases letter
  constructor
  · have text := hostText_unmarked rest named fun c member marked =>
      unmarked c member (List.mem_cons_of_mem _ marked)
    have read := text.splitHost_ahead true [] rfl
    rw [List.append_nil] at read
    rw [read, ← same, Host.parse_lower rest fun escaped => unmarked '%' escaped List.mem_cons_self]
    rfl
  · have behind : Text.Behind ':' [':'] rest := by
      refine ⟨fun colon => ?_, .inr rfl⟩
      cases letters ':' colon
    rw [show ':' :: rest = [':'] ++ rest from rfl, Http.Authority.afterLast_behind ':' _ rest behind]
    cases rest with
    | nil => exact absurd rfl named
    | cons c rest =>
        have letter := letters c List.mem_cons_self
        apply Http.Authority.unsigned_other 65535 _ c List.mem_cons_self
        · exact Text.undigited_of_letter c letter
        · rintro rfl
          cases letter

/-- Without a sign of a user the listener finds the host of the URL only where that is the name of the
scheme. -/
theorem coloned_iff (raw rest behind d e : List Char) (place : Place) (bare : isBare raw = true)
    (networked : Networked (lower raw)) (accepted : Accepted (raw ++ ':' :: rest))
    (within : (raw ++ ':' :: rest).all isWithin = true) (free : '@' ∉ raw ++ ':' :: rest)
    (named : splitHost true rest = .ok (place.host, d)) (ported : portAhead d = .ok (place.port, e)) :
    let url := placed (lower raw) place behind
    url.AddressedBy (url.scheme ++ "://".toList ++ normal (raw ++ ':' :: rest) ++ url.path) ↔
      lower (raw ++ ':' :: rest) = url.scheme ++ ':' :: url.scheme := by
  intro url
  have known := schemeName networked
  have lowered : lower (raw ++ ':' :: rest) = url.scheme ++ ':' :: lower rest := by
    simp [lower, url, placed, withTail]
  rw [lowered, List.append_cancel_left_eq, List.cons_inj_right, normal_coloned raw rest bare free]
  generalize written : Text.unsigned? 65535 (afterLast ':' (':' :: rest)) = port
  have fits : ∀ n, port = some n → n ≤ 65535 := fun n found => unsigned_le 65535 _ n (written.trans found)
  obtain ⟨text, solid⟩ := known.written
  obtain ⟨stop, again⟩ := Hosted.portText_ahead true port fits
  have asked_ := text.asked_append true _ port stop again
  obtain ⟨list, segments, address⟩ := addressText_of_placed raw behind _ place bare networked.2
    (text.plain solid _ port)
  refine (address.addressedBy_iff segments (keptPort_twice _ _)).trans ?_
  change (∃ host found, asked (isSpecial (lower raw)) _ = .ok (host, found) ∧ some place.host = some host ∧
    keptPort (lower raw) found = keptPort (lower raw) place.port) ↔ lower rest = lower raw
  rw [networked.1, asked_]
  constructor
  · rintro ⟨host, found, read, same, -⟩
    cases same
    cases told : Host.readIn true (lower raw) with
    | error e =>
        rw [told] at read
        cases read
    | ok host =>
        rw [told] at read
        cases read
        rw [known.parse_self place.host told] at named
        exact rest_of_scheme _ raw rest d e place.port known accepted within bare named ported
  · intro same
    obtain ⟨read, unported⟩ := scheme_behind _ rest known same
    rw [read] at named
    cases told : Host.parse (lower raw) with
    | error e =>
        rw [told] at named
        cases named
    | ok host =>
        rw [told] at named
        cases named
        have portless : none = place.port := (Prod.mk.inj (Except.ok.inj ported)).1
        rw [← written, unported, ← portless]
        refine ⟨place.host, none, ?_, rfl, rfl⟩
        change (Host.parse (lower raw)).map _ = _
        rw [told]
        rfl

/-- A text without slashes that is a target tells the host of a URL with structure behind the sign of a
user, and otherwise where the host is the name of the scheme. -/
theorem bare_iff (text name : List Char) (url : Url) (read : parse text = .ok url)
    (unfiled : isFile url.scheme = false) (target : Http.Target.TextOf (.bare name) text) :
    url.AddressedBy (url.scheme ++ "://".toList ++ normal name ++ url.path) ↔
      isSpecial url.scheme = true ∧
        ('@' ∈ name ∨ lower name = url.scheme ++ ':' :: url.scheme) := by
  obtain ⟨raw, rest, whole, bare, behind⟩ := parse_behind text url read unfiled
  rw [behind.scheme_eq] at unfiled
  cases target with
  | bare _ accepted within =>
      rw [cleaned_solid text (Http.Authority.solid_of_within text within)] at whole
      subst whole
      have restWithin : rest.all isWithin = true := List.all_eq_true.mpr fun c member =>
        List.all_eq_true.mp within c (List.mem_append_right _ (List.mem_cons_of_mem _ member))
      have inside := Http.Authority.inside_of_within rest restWithin
      cases behind with
      | special rest behind place special found =>
          have unseparated : rest.dropWhile (Path.isSeparator true) = rest ++ [] := by
            rw [List.append_nil]
            by_cases some_ : rest = []
            · rw [some_]
              rfl
            · have kept := dropWhile_separators true rest [] inside some_
              rwa [List.append_nil] at kept
          rw [unseparated] at found
          obtain ⟨d, e, named, ported⟩ :=
            place_afterLast true rest [] behind place inside (fun c first => by cases first) found
          by_cases user : '@' ∈ raw ++ ':' :: rest
          · have userBehind : '@' ∈ rest := by
              have other : '@' ∉ raw := by
                intro member
                simp only [isBare, Bool.and_eq_true] at bare
                cases List.all_eq_true.mp bare.2 '@' member
              simpa [other] using user
            have same : afterLast '@' (raw ++ ':' :: rest) = afterLast '@' rest := by
              have shape : raw ++ ':' :: rest = (raw ++ [':']) ++ rest := by simp
              rw [shape, afterLast_append '@' _ rest userBehind]
            rw [← special, ← same] at named
            refine (addressedBy_normal_iff raw _ behind d e place bare unfiled accepted within named
              ported).trans ?_
            exact iff_of_true (.inl special) ⟨special, .inl user⟩
          · have free : '@' ∉ rest := fun member => user (by simp [member])
            rw [Http.Authority.afterLast_unmarked '@' rest free] at named
            refine (coloned_iff raw rest behind d e place bare ⟨special, unfiled⟩ accepted within user named
              ported).trans ?_
            constructor
            · exact fun same => ⟨special, .inr same⟩
            · rintro ⟨-, there | same⟩
              · exact absurd there user
              · exact same
      | plain rest behind place unspecial found =>
          cases List.all_eq_true.mp restWithin '/' List.mem_cons_self
      | hostless rest url unspecial unslashed named nobody =>
          rw [List.append_assoc (_ ++ _)]
          apply iff_of_false (not_addressedBy_hostless raw _ url bare unspecial named nobody)
          rw [named, unspecial]
          rintro ⟨never, -⟩
          cases never

theorem not_origin (text path : List Char) (query : Option (List Char)) (url : Url)
    (read : parse text = .ok url) : ¬ Http.Target.TextOf (.origin path query) text := by
  obtain ⟨raw, rest, whole, bare, -⟩ := parse_cut text url read
  have started : ∀ c kept, cleaned text = c :: kept → c.isAlpha = true := by
    intro c kept shape
    rw [shape] at whole
    cases raw with
    | nil => cases bare
    | cons d raw =>
        cases whole
        simp only [isBare, Bool.and_eq_true, beq_iff_eq] at bare
        exact Option.some.inj bare.1
  intro target
  cases target with
  | star => cases started '*' [] rfl
  | origin _ rest _ =>
      obtain ⟨kept, shape⟩ := cleaned_front ['/'] rest rfl (List.cons_ne_nil _ _)
      cases started '/' kept shape

end Url

end AccessGate
