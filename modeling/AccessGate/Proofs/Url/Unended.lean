import AccessGate.Proofs.Url.FileAddress
import AccessGate.Proofs.Url.OwnAuthority
import AccessGate.Proofs.Url.Query

/-!
What stands in front of the query of a URL. The query has no part in it, and none of the marks that end a
path.
-/

namespace AccessGate.Url

open Hosted (authority_of_host portText portText_chars)

theorem unended_of_inside (special : Bool) (cs : List Char) (inside : Inside special cs) :
    ∀ c ∈ cs, endsPath c = false := by
  intro c member
  have outside := inside c member
  simp only [endsAuthority, Bool.or_eq_false_iff] at outside
  exact outside.1.2

/-- A URL in whose scheme, authority and path no mark ends a path. -/
structure Unended (url : Url) : Prop where
  scheme : ∀ c ∈ url.scheme, endsPath c = false
  authority : ∀ c ∈ url.authority, endsPath c = false
  path : ∀ c ∈ url.path, endsPath c = false

theorem unended_of_scheme (cs scheme rest : List Char) (read : splitScheme cs = some (scheme, rest)) :
    ∀ c ∈ scheme, endsPath c = false := by
  obtain ⟨raw, -, bare, rfl⟩ := splitScheme_some cs scheme rest read
  have known : raw.all isSchemeChar = true := by
    simp only [isBare, Bool.and_eq_true] at bare
    exact bare.2
  refine unended_of_all isSchemeChar (by decide) _ (Text.lower_all isSchemeChar ?_ raw known)
  exact isSchemeChar_of_letter

theorem unended_of_host (special : Bool) (cs : List Char) (host : Host)
    (read : Host.readIn special cs = .ok host) : ∀ c ∈ host.render, endsPath c = false := by
  rcases (render_of_read special cs host read).2 with text | ⟨-, -, nothing⟩
  · exact unended_of_inside true _ text.inside
  · simp [nothing]

theorem unended_of_authority {url : Url} {host : Host} (named : url.host = some host)
    (text : ∀ c ∈ host.render, endsPath c = false) : ∀ c ∈ url.authority, endsPath c = false := by
  rw [authority_of_host named]
  intro c member
  rcases List.mem_append.mp member with front | behind
  · exact text c front
  · exact unended_of_inside true _ (portText_chars url.port).1 c behind

theorem parseHosted_unended (scheme cs : List Char) (url : Url)
    (known : ∀ c ∈ scheme, endsPath c = false) (read : parseHosted scheme cs = .ok url) :
    url.Unended := by
  obtain ⟨place, rest, found, rfl⟩ := parseHosted_ok scheme cs url read
  obtain ⟨b, d, -, second, -⟩ := place_ok _ _ place rest found
  have host := unended_of_host _ _ place.host (splitHost_ok _ b d place.host second).1
  refine ⟨known, unended_of_authority rfl host, ?_⟩
  exact fun c member =>
    (render_chars (hostedPath_settledIn (isSpecial scheme) (splitPath rest).1).2 c member).2

theorem parseFile_unended (cs : List Char) (url : Url) (read : parseFile cs = .ok url) :
    url.Unended := by
  obtain ⟨host, list, file⟩ := isFileUrl_of_read cs url read
  constructor
  · rw [file.scheme]
    exact unended_of_all isSchemeChar (by decide) "file".toList (by decide)
  · refine unended_of_authority file.hosted ?_
    rcases file.read with rfl | ⟨⟨text, parsed⟩, -⟩
    · exact nofun
    · exact unended_of_inside true _ (hostText_of_parse text host parsed).inside
  · rw [path, file.urlPath]
    exact fun c member => (render_chars file.path.settled c member).2

theorem unended_of_text (cs : List Char) :
    ∀ c ∈ Percent.encode Host.isControl (splitPath cs).1, endsPath c = false := by
  have signs : ∀ c ∈ Percent.signs, endsPath c = false := Text.each_of_all Percent.signs _ (by decide)
  intro c member
  rcases Percent.mem_encode _ _ c member with ⟨inside, -, -⟩ | sign
  · simpa using Text.mem_takeWhile (!endsPath ·) cs c inside
  · exact signs c sign

theorem parsePlain_unended (scheme cs : List Char) (url : Url)
    (known : ∀ c ∈ scheme, endsPath c = false) (read : parsePlain scheme cs = .ok url) :
    url.Unended := by
  unfold parsePlain at read
  split at read
  · exact parseHosted_unended scheme _ url known read
  · cases read
    exact ⟨known, nofun, fun c member => (render_chars (Path.segments_settledIn false _) c member).2⟩
  · cases read
    exact ⟨known, nofun, unended_of_text _⟩

theorem unended_of_parse (text : List Char) (url : Url) (read : parse text = .ok url) :
    url.Unended := by
  rw [parse_eq] at read
  unfold parseSolid at read
  split at read
  · cases read
  · rename_i scheme rest schemed
    have known := unended_of_scheme _ scheme rest schemed
    split at read
    · exact parseFile_unended rest url read
    · split at read
      · exact parseHosted_unended scheme _ url known read
      · exact parsePlain_unended scheme rest url known read

/-- What stands in front of the query is read alike whatever the query is. -/
theorem parse_beside (front a b : List Char) (first : a.all isSolid = true) (second : b.all isSolid = true) :
    ((∃ e, parse (front ++ '?' :: a) = .error e ∧ parse (front ++ '?' :: b) = .error e) ∨
      ∃ one other, parse (front ++ '?' :: a) = .ok one ∧ parse (front ++ '?' :: b) = .ok other ∧
        one.scheme = other.scheme ∧ one.path = other.path) := by
  rw [parse_query front a first, parse_query front b second]
  cases solid_carries (untabbed (front.dropWhile isBlank)) with
  | fails e always => exact .inl ⟨e, always a, always b⟩
  | ends url rest inner opens always =>
      exact .inr ⟨_, _, always a, always b, rfl, rfl⟩

end AccessGate.Url
