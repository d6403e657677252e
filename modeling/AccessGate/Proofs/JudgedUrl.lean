import AccessGate.Judge
import AccessGate.Proofs.Http.FileTarget

/-!
The URL that a described request is judged by. Scheme and path are taken from the text as a URL, and the
authority from the text as a target where it is one, so that a text for which these two readings part is
judged by an address that is not its own.
-/

namespace AccessGate

open Text (lower)
open Http.Authority (normal)

namespace JudgeQuery

theorem request_url (query : JudgeQuery) (incoming : Http.Incoming) (request : Request)
    (accepted : query.request incoming = .ok request) :
    Url.parse query.url.toList = .ok request.url ∧
      request.authority = (Request.rawAuthority? query.url.toList).getD request.url.authority := by
  unfold JudgeQuery.request at accepted
  split at accepted
  · cases accepted
  · split at accepted
    · cases accepted
    · rename_i url read
      cases accepted
      cases query.token with
      | none =>
          cases Request.rawAuthority? query.url.toList with
          | none => exact ⟨read, rfl⟩
          | some authority => exact ⟨read, rfl⟩
      | some token =>
          cases Request.rawAuthority? query.url.toList with
          | none => exact ⟨read, rfl⟩
          | some authority => exact ⟨read, rfl⟩

/-! ## Texts with one address -/

/-- Whether a text has one authority, as a URL and as a target. Behind two slashes both readers find the
same, up to the letters of hosts without structure. Without slashes the listener takes the scheme for the
host, unless a user stands in front of one. -/
def OneAuthority (url : Url) (text : List Char) : Prop :=
  match Http.Target.parse text with
  | .ok (.absolute _ _ _ _) => Url.isSpecial url.scheme = true ∨ lower url.hostText = url.hostText
  | .ok (.bare name) =>
      Url.isSpecial url.scheme = true ∧ ('@' ∈ name ∨ lower name = url.scheme ++ ':' :: url.scheme)
  | .ok (.origin _ _) => False
  | .error _ =>
      ∃ host, url.host = some host ∧ Url.Host.readIn (Url.isSpecial url.scheme) url.hostText = .ok host

/-- Whether a text has one host and one path as the URL of a file and as a target. A drive in front of the
path takes the host away, and is written anew behind one. -/
def OneFile (url : Url) (text : List Char) : Prop :=
  match Http.Target.parse text with
  | .ok (.absolute _ name _ _) =>
      (∃ host, Url.fileHost (normal name) = .ok host) ∧
        (url.host = some (.domain []) ∨ Url.Path.startsDrive url.firstSegment = false)
  | .ok (.bare name) =>
      ∃ host, Url.fileHost (normal name) = .ok host ∧
        (host = .domain [] ∨ Url.Path.isNormalDrive url.firstSegment = true)
  | .ok (.origin _ _) => False
  | .error _ =>
      url.host = some (.domain []) ∨
        (∃ host, url.host = some host ∧ Url.Host.parse url.hostText = .ok host) ∧
          Url.Path.startsDrive url.firstSegment = false

/-- Whether the address that a text is judged by is that of its URL. -/
def OneAddress (url : Url) (text : List Char) : Prop :=
  if Url.isFile url.scheme then OneFile url text else OneAuthority url text

theorem addressedBy_own_file (text : List Char) (url : Url) (read : Url.parse text = .ok url)
    (filed : Url.isFile url.scheme = true) :
    url.AddressedBy (url.scheme ++ "://".toList ++ url.authority ++ url.path) ↔
      url.host = some (.domain []) ∨
        (∃ host, url.host = some host ∧ Url.Host.parse url.hostText = .ok host) ∧
          Url.Path.startsDrive url.firstSegment = false := by
  obtain ⟨raw, rest, -, -, placed⟩ := Url.parse_file text url read filed
  obtain ⟨host, list, file⟩ := Url.isFileUrl_of_read rest url placed
  have text : url.hostText = host.render := by
    rw [Url.hostText, file.hosted]
    rfl
  rw [file.own_iff, file.hosted, text]
  simp only [Option.some.injEq, exists_eq_left']

theorem judged_url_iff (query : JudgeQuery) (incoming : Http.Incoming) (request : Request)
    (accepted : query.request incoming = .ok request) :
    Url.parse query.url.toList = .ok request.url ∧
      (request.url.AddressedBy request.matchUrl ↔ OneAddress request.url query.url.toList) := by
  obtain ⟨read, authority⟩ := request_url query incoming request accepted
  refine ⟨read, ?_⟩
  unfold Request.matchUrl OneAddress
  rw [authority, Request.rawAuthority?]
  cases filed : Url.isFile request.url.scheme with
  | true =>
      rw [if_pos rfl, OneFile]
      cases target : Http.Target.parse query.url.toList with
      | error e => exact addressedBy_own_file _ request.url read filed
      | ok target_ =>
          have text := Http.Target.parse_text _ target_ target
          cases target_ with
          | origin path tail => exact absurd text (Url.not_origin _ path tail request.url read)
          | absolute scheme name path tail =>
              exact Url.absolute_file_iff _ request.url scheme name path tail read filed text
          | bare name => exact Url.bare_file_iff _ name request.url read filed text
  | false =>
      rw [if_neg Bool.false_ne_true, OneAuthority]
      cases target : Http.Target.parse query.url.toList with
      | error e => exact Url.addressedBy_own_iff _ request.url read filed
      | ok target_ =>
          have text := Http.Target.parse_text _ target_ target
          cases target_ with
          | origin path tail => exact absurd text (Url.not_origin _ path tail request.url read)
          | absolute scheme name path tail =>
              exact Url.absolute_iff _ request.url scheme name path tail read filed text
          | bare name => exact Url.bare_iff _ name request.url read filed text

/-- A description of a request for a URL and nothing else. -/
def asking (text : String) : JudgeQuery := ⟨"GET", text, none, []⟩

theorem judged_url_user : ∃ request,
    (asking "HTTP://user:word@[::1]:80/a/../b?x#y").request default = .ok request ∧
      request.matchUrl = "http://[::1]:80/b".toList ∧ request.url.AddressedBy request.matchUrl := by
  obtain ⟨request, accepted, matched, scheme⟩ : ∃ request,
      (asking "HTTP://user:word@[::1]:80/a/../b?x#y").request default = .ok request ∧
        request.matchUrl = "http://[::1]:80/b".toList ∧ request.url.scheme = "http".toList :=
    ⟨_, rfl, by decide +kernel, by decide +kernel⟩
  refine ⟨request, accepted, matched, (judged_url_iff _ _ request accepted).2.mpr ?_⟩
  have target : Http.Target.parse (asking "HTTP://user:word@[::1]:80/a/../b?x#y").url.toList =
      .ok (.absolute "http".toList "user:word@[::1]:80".toList "/a/../b".toList (some ['x'])) := by
    decide +kernel
  unfold OneAddress OneAuthority
  rw [scheme, if_neg (by decide), target]
  exact .inl (by decide)

/-- A text without slashes is judged by the name of its scheme. -/
theorem judged_url_mistaken : ∃ request groups,
    (asking "http:[::1]").request default = .ok request ∧ request.matchUrl = "http://http/".toList ∧
      request.url.host = some (.address (.v6 groups)) ∧ ¬ request.url.AddressedBy request.matchUrl := by
  obtain ⟨request, groups, accepted, matched, hosted⟩ : ∃ request groups,
      (asking "http:[::1]").request default = .ok request ∧ request.matchUrl = "http://http/".toList ∧
        request.url.host = some (.address (.v6 groups)) :=
    ⟨_, _, rfl, by decide +kernel, rfl⟩
  refine ⟨request, groups, accepted, matched, hosted, ?_⟩
  rintro ⟨other, read, same⟩
  rw [matched] at read
  have mistaken := Url.host_of_scheme "http".toList ⟨by decide, by decide⟩ other read
  cases (same.host.trans hosted).symm.trans mistaken

end JudgeQuery

end AccessGate
