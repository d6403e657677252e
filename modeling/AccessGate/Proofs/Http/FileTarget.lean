import AccessGate.Proofs.Http.AskedTwice
import AccessGate.Proofs.Url.FileAddress

/-!
Files that are asked for by a target and by a URL. Their hosts have no port, a drive may stand where a host
would, and a path that begins with a drive has no host.
-/

namespace AccessGate

open Text (lower)
open Http.Authority (afterLast normal Accepted isWithin IsHost PortSuffix)

namespace Url

/-- The first segment of a path. -/
def firstSegment (url : Url) : List Char :=
  match url.urlPath with
  | .segments (first :: _) => first
  | _ => []

/-! ## Authorities of files -/

theorem undriven_of_unmarked (a : List Char) (unmarked : ∀ c ∈ a, c ≠ ':' ∧ c ≠ '|') :
    Path.isDrive a = false := by
  cases drive : Path.isDrive a with
  | false => rfl
  | true =>
      obtain ⟨letter, mark, rfl, -, colon | bar⟩ := Path.drive_shape a drive
      · exact absurd colon (unmarked mark (by simp)).1
      · exact absurd bar (unmarked mark (by simp)).2

theorem undriven_of_bracket (a : List Char) : Path.isDrive ('[' :: a) = false := by
  cases drive : Path.isDrive ('[' :: a) with
  | false => rfl
  | true =>
      obtain ⟨letter, mark, shape, alpha, -⟩ := Path.drive_shape _ drive
      cases shape
      cases alpha

theorem undriven_of_digit (a : List Char) (c : Char) (digit : c.isDigit = true) :
    Path.isDrive (a ++ [c]) = false := by
  cases drive : Path.isDrive (a ++ [c]) with
  | false => rfl
  | true =>
      obtain ⟨letter, mark, shape, -, known⟩ := Path.drive_shape _ drive
      have last : c = mark := by
        have ends := congrArg List.getLast? shape
        simpa using ends
      rw [last] at digit
      rcases known with rfl | rfl
      · cases digit
      · cases digit

theorem fileAuthority_of_read (cs : List Char) (host : Host) (read : Host.parse cs = .ok host) :
    FileAuthority host.render := by
  obtain ⟨solid, -⟩ := render_of_read true cs host read
  refine ⟨(hostText_of_parse cs host read).inside, solid, ?_⟩
  rcases parse_kinds cs host read with ⟨groups, rfl⟩ | ⟨-, plain⟩
  · exact undriven_of_bracket _
  · apply undriven_of_unmarked
    intro c member
    have free := (plain c member).2
    constructor
    · rintro rfl
      cases free
    · rintro rfl
      cases free

theorem undriven_host (name : List Char) (within : name.all isWithin = true) :
    Path.isDrive (lower (Http.Authority.host name)) = false := by
  have all := Http.Authority.host_within name within
  unfold Http.Authority.host at all ⊢
  dsimp only at all ⊢
  split
  · rename_i rest shape
    rw [shape, List.takeWhile_cons_of_pos (by decide)]
    exact undriven_of_bracket _
  · rename_i unbracketed
    have free : ∀ c ∈ (afterLast '@' name).takeWhile (· != ':'), c ∉ ":|".toList := by
      intro c member listed
      simp only [String.reduceToList, List.mem_cons, List.not_mem_nil, or_false] at listed
      rcases listed with rfl | rfl
      · simpa using Text.mem_takeWhile _ _ ':' member
      · split at all
        · rename_i rest shape
          exact absurd shape (unbracketed rest)
        · cases List.all_eq_true.mp all '|' member
    apply undriven_of_unmarked
    intro c member
    have unmarked := Text.lower_free ":|".toList _ (Text.each_of_all _ _ (by decide)) free c member
    simpa [not_or] using unmarked

theorem fileAuthority_normal (name : List Char) (within : name.all isWithin = true) :
    FileAuthority (normal name) := by
  have all := Http.Authority.normal_within name within
  refine ⟨Http.Authority.inside_of_within _ all, Http.Authority.solid_of_within _ all, ?_⟩
  unfold normal
  dsimp only
  split
  · rename_i port _
    obtain ⟨digits, last, shape⟩ := List.eq_nil_or_concat (Text.natText port) |>.resolve_left
      (Text.natText_ne_nil port)
    rw [List.concat_eq_append] at shape
    have digit : last.isDigit = true := Text.natText_digits port last (by simp [shape])
    rw [shape, ← List.cons_append, ← List.append_assoc]
    exact undriven_of_digit _ last digit
  · exact undriven_host name within

namespace IsFileUrl

variable {url : Url} {host : Host} {list : List (List Char)}

theorem first_eq (file : IsFileUrl url host list) : ∃ rest, list = url.firstSegment :: rest := by
  rw [firstSegment, file.urlPath]
  cases list with
  | nil => exact absurd rfl file.path.some_
  | cons first rest => exact ⟨rest, rfl⟩

theorem hostBehind_iff (file : IsFileUrl url host list) (named : host ≠ .domain []) (found : Host) :
    ((found = .domain [] ∨ Path.keepsFirst list = true) ∧ hostBehind list found = host) ↔
      found = host ∧ Path.startsDrive url.firstSegment = false := by
  obtain ⟨rest, rfl⟩ := file.first_eq
  rw [← Path.keepsFirst_undriven _ rest]
  unfold hostBehind
  cases Path.onDrive (url.firstSegment :: rest) with
  | true =>
      apply iff_of_false
      · exact fun same => named same.2.symm
      · exact fun same => by cases same.2.2
  | false =>
      simp only [Bool.false_eq_true, if_false, and_true]
      constructor
      · rintro ⟨kept, rfl⟩
        exact ⟨rfl, kept.resolve_left named⟩
      · rintro ⟨rfl, kept⟩
        exact ⟨.inr kept, rfl⟩

theorem hostBehind_none_iff (file : IsFileUrl url (.domain []) list) (found : Host) :
    ((found = .domain [] ∨ Path.keepsFirst list = true) ∧ hostBehind list found = .domain []) ↔
      found = .domain [] ∨ Path.isNormalDrive url.firstSegment = true := by
  obtain ⟨rest, rfl⟩ := file.first_eq
  rw [← Path.keepsFirst_drive _ rest]
  unfold hostBehind
  cases Path.onDrive (url.firstSegment :: rest) with
  | true => simp
  | false =>
      simp only [Bool.false_eq_true, if_false, and_false, or_false]
      exact ⟨fun same => same.2, fun same => ⟨.inl same, same⟩⟩

theorem local_iff {a : List Char} (file : IsFileUrl url (.domain []) list) (authority : FileAuthority a) :
    url.AddressedBy (url.scheme ++ "://".toList ++ a ++ url.path) ↔
      ∃ found, fileHost a = .ok found ∧
        (found = .domain [] ∨ Path.isNormalDrive url.firstSegment = true) := by
  rw [file.addressedBy_iff authority]
  simp only [file.hostBehind_none_iff]

theorem own_iff (file : IsFileUrl url host list) :
    url.AddressedBy (url.scheme ++ "://".toList ++ url.authority ++ url.path) ↔
      host = .domain [] ∨
        Host.parse host.render = .ok host ∧ Path.startsDrive url.firstSegment = false := by
  have authority : url.authority = host.render := by
    rw [Hosted.authority_of_host file.hosted, file.portless, Hosted.portText, List.append_nil]
  rw [authority]
  by_cases unnamed : host = .domain []
  · subst unnamed
    have nowhere : FileAuthority (Host.domain []).render := ⟨List.forall_mem_nil _, rfl, rfl⟩
    apply iff_of_true _ (.inl rfl)
    exact (file.local_iff nowhere).mpr ⟨.domain [], rfl, .inl rfl⟩
  · obtain ⟨⟨cs, read⟩, other⟩ := file.read.resolve_left unnamed
    have some_ : host.render.isEmpty = false := by
      simpa using (hostText_of_parse cs host read).named
    rw [file.addressedBy_iff (fileAuthority_of_read cs host read)]
    simp only [file.hostBehind_iff unnamed, unnamed, false_or, fileHost, some_, Bool.false_eq_true,
      if_false]
    constructor
    · rintro ⟨found, told, rfl, undriven⟩
      refine ⟨?_, undriven⟩
      cases again : Host.parse found.render with
      | error e =>
          rw [again] at told
          cases told
      | ok named =>
          rw [again] at told
          simp only [Except.map, Except.ok.injEq] at told
          split at told
          · exact absurd told.symm unnamed
          · rw [told]
    · rintro ⟨again, undriven⟩
      refine ⟨host, ?_, rfl, undriven⟩
      rw [again]
      simp only [Except.map, if_neg other]

end IsFileUrl

/-! ## Files behind two slashes -/

theorem normal_fileName (name : List Char) (host : Host) (accepted : Accepted name)
    (read : Host.parse name = .ok host) :
    normal name = lower name ∧ Host.parse (lower name) = .ok host := by
  have formed := Http.Authority.isHost_of_read true name host accepted.named read
  have lowered : Host.parse (lower name) = .ok host := by
    by_cases bracket : name.head? = some '['
    · cases name with
      | nil => cases bracket
      | cons c rest =>
          cases bracket
          exact (Host.bracketed_lower rest).trans read
    · rw [Host.parse_lower name, read]
      exact (accepted.unmarked fun c member marked =>
        Host.parse_unmarked name host read bracket c member (List.mem_cons_of_mem _ marked)).1
  refine ⟨?_, lowered⟩
  have parts := Http.Authority.normal_parts formed PortSuffix.absent
  simpa [Hosted.portText] using parts

theorem hostedPath_drive (cs : List Char) (drive : Path.onDrive (hostedPath true true cs) = true) :
    Path.dropEmpty (hostedPath true true cs) = hostedPath true true cs ∧
      Path.keepsFirst (hostedPath true true cs) = true := by
  unfold hostedPath at drive ⊢
  split
  · cases drive
  · dsimp only at drive
    split
    · rename_i separates
      rw [if_pos separates] at drive
      exact Path.segments_drive _ drive
    · rename_i open_
      rw [if_neg open_] at drive
      exact Path.segments_drive _ drive

theorem onDrive_behind (letter : Char) (alpha : letter.isAlpha = true) (rest : List Char)
    (rooted : rest = [] ∨ ∃ more, rest = '/' :: more) :
    Path.onDrive (Path.segments true true (letter :: ':' :: rest)) = true := by
  obtain ⟨drive, isDrive_⟩ := Path.settled_drive letter alpha
  have put : Path.push true [] [letter, ':'] = [[letter, ':']] := by
    simp [Path.push, drive.no_double_dot, drive.no_single_dot, Path.normalDrive]
  have closed : Path.close true [] [letter, ':'] = [[letter, ':']] := by
    simp [Path.close, drive.no_double_dot, drive.no_single_dot, Path.normalDrive]
  rw [Path.segments_file]
  rcases rooted with rfl | ⟨more, rfl⟩
  · rw [Path.steps_settled [letter, ':'] drive]
    change Path.onDrive (Path.close true [] [letter, ':']).reverse = true
    rw [closed]
    exact isDrive_
  · have shape : letter :: ':' :: '/' :: more = [letter, ':'] ++ '/' :: more := rfl
    rw [shape, Path.steps_append, Path.steps_settled [letter, ':'] drive]
    cases behind : Path.steps true more with
    | nil => exact absurd behind (Path.steps_ne_nil true more)
    | cons next others =>
        obtain ⟨kept, same⟩ := Path.walk_from_drive letter alpha (next :: others)
        change Path.onDrive (Path.walk true (Path.push true [] [letter, ':']) (next :: others)).reverse = true
        rw [put, same]
        exact isDrive_

theorem onDrive_splitPath (letter : Char) (alpha : letter.isAlpha = true) (rest : List Char)
    (closes : Closes false rest) :
    Path.onDrive (Path.segments true true (splitPath (letter :: ':' :: rest)).1) = true := by
  have open_ : endsPath letter = false := by
    cases ends : endsPath letter with
    | false => rfl
    | true =>
        simp only [endsPath, Bool.or_eq_true, beq_iff_eq] at ends
        rcases ends with rfl | rfl
        · cases alpha
        · cases alpha
  have taken : (splitPath (letter :: ':' :: rest)).1 = letter :: ':' :: rest.takeWhile (!endsPath ·) := by
    simp only [splitPath]
    rw [List.takeWhile_cons_of_pos (by simp [open_]), List.takeWhile_cons_of_pos (by decide)]
  rw [taken]
  apply onDrive_behind letter alpha
  cases rest with
  | nil => exact .inl rfl
  | cons c rest =>
      have known := closes c rfl
      simp only [endsAuthority, Bool.false_and, Bool.or_false, Bool.or_eq_true, beq_iff_eq] at known
      rcases known with rfl | ends
      · exact .inr ⟨_, List.takeWhile_cons_of_pos (by decide)⟩
      · exact .inl (List.takeWhile_cons_of_neg (by simp [ends]))

theorem IsFileUrl.driven_iff {url : Url} {list : List (List Char)} {a : List Char}
    (file : IsFileUrl url (.domain []) list) (authority : FileAuthority a)
    (kept : Path.keepsFirst list = true) (drive : Path.onDrive list = true) :
    url.AddressedBy (url.scheme ++ "://".toList ++ a ++ url.path) ↔ ∃ host, fileHost a = .ok host := by
  rw [file.addressedBy_iff authority]
  simp [kept, hostBehind, drive]

/-- A file whose host is read from a name is addressed by the normal form of the name, unless a drive comes
to stand behind the host there. -/
theorem named_file_iff (host : Host) (cs rest a : List Char) (read : ∃ name, Host.parse name = .ok host)
    (other : host ≠ localName) (authority : FileAuthority a) (told : fileHost a = .ok host) :
    let url := fileUrl host (hostedPath true true cs) rest
    url.AddressedBy (url.scheme ++ "://".toList ++ a ++ url.path) ↔
      url.host = some (.domain []) ∨ Path.startsDrive url.firstSegment = false := by
  intro url
  have file : IsFileUrl url _ _ := isFileUrl_of_segments host _ rest (hostedPath_file cs).1
    (hostedPath_file cs).2 (.inr ⟨read, other⟩)
  obtain ⟨name, read⟩ := read
  have named := parse_named_host name host read
  cases drive : Path.onDrive (hostedPath true true cs) with
  | true =>
      obtain ⟨same, kept⟩ := hostedPath_drive cs drive
      rw [drive, if_pos rfl, same] at file
      exact iff_of_true ((file.driven_iff authority kept drive).mpr ⟨host, told⟩) (.inl file.hosted)
  | false =>
      rw [drive, if_neg Bool.false_ne_true] at file
      rw [file.addressedBy_iff authority, file.hosted]
      simp only [file.hostBehind_iff named, told, Except.ok.injEq, Option.some.injEq, named, false_or,
        exists_eq_left', true_and]

/-- A file with a host that a listener finds as well: the URL is read back unless a drive comes to stand
behind the host. -/
theorem absolute_file_iff (text : List Char) (url : Url) (scheme name path : List Char)
    (query : Option (List Char)) (read : parse text = .ok url) (filed : isFile url.scheme = true)
    (target : Http.Target.TextOf (.absolute scheme name path query) text) :
    url.AddressedBy (url.scheme ++ "://".toList ++ normal name ++ url.path) ↔
      (∃ host, fileHost (normal name) = .ok host) ∧
        (url.host = some (.domain []) ∨ Path.startsDrive url.firstSegment = false) := by
  obtain ⟨raw, rest, whole, bare, file⟩ := parse_file text url read filed
  cases target with
  | absolute front _ _ _ more _ known accepted within ends =>
      obtain ⟨kept, rfl, rfl, closes⟩ := absolute_split front name more raw rest known within ends bare whole
      have inside := Http.Authority.inside_of_within name within
      have authority := fileAuthority_normal name within
      have placed : parseFileHost (name ++ kept) = .ok url := file
      unfold parseFileHost at placed
      dsimp only at placed
      rw [takeWhile_inside true name kept inside (closes true)] at placed
      split at placed
      · rename_i drive
        obtain ⟨letter, mark, rfl, alpha, colon⟩ := Path.drive_shape name drive
        have named : mark = ':' := by
          refine colon.resolve_right ?_
          rintro rfl
          cases List.all_eq_true.mp within '|' (by simp)
        subst named
        have drives := onDrive_splitPath letter alpha kept (closes false)
        obtain ⟨same, keeps⟩ := Path.segments_drive _ drives
        obtain ⟨some_, settled⟩ := Path.segments_file_settled (splitPath (letter :: ':' :: kept)).1
        cases placed
        have found := isFileUrl_of_segments (.domain []) _ (splitPath (letter :: ':' :: kept)).2 some_ settled
          (.inl rfl)
        rw [ite_self, same] at found
        refine (found.driven_iff authority keeps drives).trans ?_
        exact (and_iff_left (.inl found.hosted)).symm
      · have some_ : name.isEmpty = false := by simpa using accepted.named
        simp only [List.drop_left, some_, Bool.false_eq_true, if_false] at placed
        cases parsed : Host.parse name with
        | error e =>
            rw [parsed] at placed
            cases placed
        | ok host =>
            obtain ⟨same, lowered⟩ := normal_fileName name host accepted parsed
            have named : (lower name).isEmpty = false := by simpa [lower] using accepted.named
            have told : fileHost (normal name) = .ok (if host = localName then .domain [] else host) := by
              rw [same, fileHost, named, if_neg Bool.false_ne_true, lowered]
              rfl
            rw [parsed] at placed
            dsimp only at placed
            split at placed
            · rename_i own
              cases placed
              rw [if_pos (show host = localName from own)] at told
              obtain ⟨list, file⟩ := isFileUrl_local (splitPath kept).1 (splitPath kept).2
              exact iff_of_true ((file.local_iff authority).mpr ⟨.domain [], told, .inl rfl⟩)
                ⟨⟨.domain [], told⟩, .inl file.hosted⟩
            · rename_i other
              cases placed
              rw [if_neg (show ¬ host = localName from other)] at told
              refine (named_file_iff host _ _ _ ⟨name, parsed⟩ other authority told).trans ?_
              exact (and_iff_right ⟨host, told⟩).symm

/-! ## Files without slashes -/

theorem parseFile_inside (cs : List Char) (url : Url) (inside : Inside true cs)
    (read : parseFile cs = .ok url) :
    ∃ path behind, url = fileUrl (.domain []) (Path.segments true true path) behind := by
  have open_ : ∀ c ∈ cs, Path.isSeparator true c = false := by
    intro c member
    cases separates : Path.isSeparator true c with
    | false => rfl
    | true =>
        have ends := ends_of_separator true c separates
        rw [inside c member] at ends
        cases ends
  unfold parseFile at read
  dsimp only at read
  split at read
  · rename_i a b behind
    simp only [open_ a List.mem_cons_self, Bool.false_eq_true, false_and, if_false] at read
    cases read
    exact ⟨_, _, rfl⟩
  · cases read
    exact ⟨_, _, rfl⟩
  · cases read
    exact ⟨_, _, rfl⟩

/-- A text without slashes is a file without a host, so the host that the listener finds has to be none, or
a drive has to stand in front of the path. -/
theorem bare_file_iff (text name : List Char) (url : Url) (read : parse text = .ok url)
    (filed : isFile url.scheme = true) (target : Http.Target.TextOf (.bare name) text) :
    url.AddressedBy (url.scheme ++ "://".toList ++ normal name ++ url.path) ↔
      ∃ host, fileHost (normal name) = .ok host ∧
        (host = .domain [] ∨ Path.isNormalDrive url.firstSegment = true) := by
  obtain ⟨raw, rest, whole, bare, file⟩ := parse_file text url read filed
  cases target with
  | bare _ accepted within =>
      rw [cleaned_solid text (Http.Authority.solid_of_within text within)] at whole
      have authority := fileAuthority_normal text within
      subst whole
      obtain ⟨cs, behind, rfl⟩ := parseFile_inside rest url (fun c member =>
        Http.Authority.not_ends_of_within c (List.all_eq_true.mp within c (by simp [member]))) file
      obtain ⟨list, file⟩ := isFileUrl_local cs behind
      exact file.local_iff authority

end Url

end AccessGate
