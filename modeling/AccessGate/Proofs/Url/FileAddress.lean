import AccessGate.Proofs.Url.Address
import AccessGate.Proofs.Url.FilePath

/-!
Addresses of files. The local host has no name there, and a drive in front of a path leaves no host, so
that an authority with the path of a URL need not give that URL again.
-/

namespace AccessGate.Url

def localName : Host := .domain "localhost".toList

/-- The host of a file behind two slashes: an empty text and the name of the local host tell the same. -/
def fileHost (a : List Char) : Except UrlError Host :=
  if a.isEmpty then .ok (.domain [])
  else (Host.parse a).map fun host => if host = localName then .domain [] else host

theorem parse_named_host (a : List Char) (host : Host) (read : Host.parse a = .ok host) :
    host ≠ .domain [] := by
  rintro rfl
  exact (hostText_of_parse a _ read).named rfl

/-- A URL of a file as it was read. -/
structure IsFileUrl (url : Url) (host : Host) (list : List (List Char)) : Prop where
  scheme : url.scheme = "file".toList
  hosted : url.host = some host
  portless : url.port = none
  urlPath : url.urlPath = .segments list
  path : Path.FileList list
  read : host = .domain [] ∨ (∃ a, Host.parse a = .ok host) ∧ host ≠ localName

theorem isFileUrl_of_segments (host : Host) (segments : List (List Char)) (rest : List Char)
    (some_ : segments ≠ []) (settled : ∀ segment ∈ segments, Path.SettledIn true segment)
    (read : host = .domain [] ∨ (∃ a, Host.parse a = .ok host) ∧ host ≠ localName) :
    IsFileUrl (fileUrl host segments rest) (if Path.onDrive segments then .domain [] else host)
      (Path.dropEmpty segments) := by
  refine ⟨rfl, rfl, rfl, rfl, Path.fileList_dropEmpty segments some_ settled, ?_⟩
  split
  · exact .inl rfl
  · exact read

theorem isFileUrl_local (cs rest : List Char) :
    ∃ list, IsFileUrl (fileUrl (.domain []) (Path.segments true true cs) rest) (.domain []) list := by
  obtain ⟨some_, settled⟩ := Path.segments_file_settled cs
  have file := isFileUrl_of_segments (.domain []) _ rest some_ settled (.inl rfl)
  rw [ite_self] at file
  exact ⟨_, file⟩

theorem hostedPath_file (cs : List Char) :
    hostedPath true true cs ≠ [] ∧ ∀ segment ∈ hostedPath true true cs, Path.SettledIn true segment := by
  unfold hostedPath
  split
  · refine ⟨by simp, fun segment member => ?_⟩
    rw [if_pos rfl] at member
    rw [List.mem_singleton.mp member]
    exact Path.settled_nil.within true
  · split
    · exact Path.segments_file_settled _
    · exact Path.segments_file_settled _

theorem isFileUrl_of_read (cs : List Char) (url : Url) (read : parseFile cs = .ok url) :
    ∃ host list, IsFileUrl url host list := by
  cases parseFile_ok cs url read with
  | unhosted cs rest => exact ⟨_, isFileUrl_local cs rest⟩
  | hosted name host cs rest named other =>
      obtain ⟨some_, settled⟩ := hostedPath_file cs
      exact ⟨_, _, isFileUrl_of_segments host _ rest some_ settled (.inr ⟨⟨name, named⟩, other⟩)⟩

theorem parse_file (text : List Char) (url : Url) (read : parse text = .ok url)
    (filed : isFile url.scheme = true) :
    ∃ raw rest, cleaned text = raw ++ ':' :: rest ∧ isBare raw = true ∧ parseFile rest = .ok url := by
  obtain ⟨raw, rest, shape, bare, behind⟩ := parse_cut text url read
  refine ⟨raw, rest, shape, bare, ?_⟩
  unfold parseBehind at behind
  split at behind
  · exact behind
  · rename_i other
    have named : url.scheme = Text.lower raw := by
      split at behind
      · exact parseHosted_scheme _ _ url behind
      · exact parsePlain_scheme _ rest url behind
    rw [named] at filed
    exact absurd filed other

/-! ## Texts of addresses -/

theorem parseFileHost_text (a : List Char) (list : List (List Char)) (inside : Inside true a)
    (undriven : Path.isDrive a = false) (path : Path.FileList list) :
    parseFileHost (a ++ Path.render list) = (fileHost a).map fun host =>
      if host = .domain [] then fileUrl (.domain []) (Path.segments true true (Path.render list)) []
      else fileUrl host (Path.segments true true (Path.render list).tail) [] := by
  have closes : Closes true (Path.render list) := by
    intro c first
    cases list with
    | nil => cases first
    | cons segment list =>
        cases first
        rfl
  have behind : hostedPath true true (Path.render list) =
      Path.segments true true (Path.render list).tail := by
    cases list with
    | nil => exact absurd rfl path.some_
    | cons first more => rfl
  unfold parseFileHost fileHost
  dsimp only
  rw [takeWhile_inside true a _ inside closes, undriven, if_neg Bool.false_ne_true]
  simp only [List.drop_left, splitPath_render path.settled, behind]
  split
  · rfl
  · cases parsed : Host.parse a with
    | error e => rfl
    | ok host =>
        have named := parse_named_host a host parsed
        change (if host = localName then _ else _) = _
        simp only [Except.map]
        by_cases own : host = localName
        · rw [if_pos own, if_pos own, if_pos rfl]
        · rw [if_neg own, if_neg own, if_neg named]

/-- The authority of a file's URL: a host without a port. -/
structure FileAuthority (a : List Char) : Prop where
  inside : Inside true a
  solid : a.all isSolid = true
  undriven : Path.isDrive a = false

theorem FileAuthority.parse_eq {a : List Char} (authority : FileAuthority a) (list : List (List Char))
    (path : Path.FileList list) :
    parse ("file".toList ++ "://".toList ++ a ++ Path.render list) =
      (fileHost a).map fun host =>
        if host = .domain [] then fileUrl (.domain []) (Path.segments true true (Path.render list)) []
        else fileUrl host (Path.segments true true (Path.render list).tail) [] := by
  have all : ("file".toList ++ "://".toList ++ a ++ Path.render list).all isSolid = true := by
    rw [List.all_append, List.all_append, authority.solid,
      List.all_eq_true.mpr fun c member => (render_chars path.settled c member).1]
    rfl
  rw [← parseFileHost_text a list authority.inside authority.undriven path, Url.parse_eq,
    cleaned_solid _ all]
  rfl

def hostBehind (list : List (List Char)) (host : Host) : Host :=
  if Path.onDrive list then .domain [] else host

theorem fileUrl_isAddressOf_iff {url : Url} {host : Host} {list : List (List Char)}
    (file : IsFileUrl url host list) (found : Host) (segments : List (List Char)) :
    (fileUrl found segments []).IsAddressOf url ↔
      hostBehind segments found = host ∧ Path.render (Path.dropEmpty segments) = Path.render list := by
  have path : url.path = Path.render list := by rw [Url.path, file.urlPath]
  constructor
  · intro same
    have hosted := same.host
    rw [file.hosted] at hosted
    exact ⟨Option.some.inj hosted, same.path.trans path⟩
  · rintro ⟨hosted, equal⟩
    refine ⟨file.scheme.symm, ?_, ?_, equal.trans path.symm, ⟨rfl, rfl⟩, rfl, rfl⟩
    · rw [file.hosted, ← hosted]
      rfl
    · change (none : Option Nat).or _ = _
      rw [effectivePort, file.portless, file.scheme]
      rfl

/-- Such a text is read as the address of a file exactly when it tells the host that the path leaves, and
the path is left as it is there. -/
theorem IsFileUrl.addressedBy_iff {url : Url} {host : Host} {list : List (List Char)} {a : List Char}
    (file : IsFileUrl url host list) (authority : FileAuthority a) :
    url.AddressedBy (url.scheme ++ "://".toList ++ a ++ url.path) ↔
      ∃ found, fileHost a = .ok found ∧ (found = .domain [] ∨ Path.keepsFirst list = true) ∧
        hostBehind list found = host := by
  have path : url.path = Path.render list := by rw [Url.path, file.urlPath]
  unfold AddressedBy
  rw [file.scheme, path, authority.parse_eq list file.path]
  cases fileHost a with
  | error e => simp [Except.map]
  | ok found =>
      simp only [Except.map, Except.ok.injEq, exists_eq_left']
      by_cases unnamed : found = .domain []
      · obtain ⟨kept, undriven⟩ := file.path.behind_slash
        rw [if_pos unnamed, fileUrl_isAddressOf_iff file, kept, unnamed]
        simp [hostBehind, undriven]
      · rw [if_neg unnamed, fileUrl_isAddressOf_iff file]
        cases keeps : Path.keepsFirst list with
        | true =>
            rw [file.path.behind_host_kept keeps, file.path.dropped]
            simp
        | false =>
            obtain ⟨letter, rest, segments, changed⟩ := file.path.behind_host_drive keeps
            rw [segments]
            apply iff_of_false
            · exact fun same => changed same.2
            · rintro ⟨none_ | kept, -⟩
              · exact unnamed none_
              · cases kept

end AccessGate.Url
