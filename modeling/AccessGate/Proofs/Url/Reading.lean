import AccessGate.Proofs.Url.Authority
import AccessGate.Proofs.Url.Path

/-!
How the scheme of a URL decides the way in which the rest is read. Schemes that are read alike give
the same text behind them the same path.
-/

namespace AccessGate.Url

/-! ## The text that counts -/

/-- A text without tabs and line ends. -/
def untabbed (cs : List Char) : List Char := cs.filter fun c => c != '\t' && c != '\n' && c != '\r'

/-- A character that counts wherever it stands. -/
def isSolid (c : Char) : Bool := 0x20 < c.toNat

theorem untabbed_solid (cs : List Char) (solid : cs.all isSolid = true) : untabbed cs = cs := by
  apply List.filter_eq_self.mpr
  intro c member
  have high := List.all_eq_true.mp solid c member
  simp only [isSolid, decide_eq_true_eq] at high
  have apart : c ≠ '\t' ∧ c ≠ '\n' ∧ c ≠ '\r' := by
    refine ⟨?_, ?_, ?_⟩
    all_goals
      rintro rfl
      exact absurd high (by decide)
  simp [apart]

theorem dropWhile_blanks (cs : List Char) (first : ∀ c, cs.head? = some c → isSolid c = true) :
    cs.dropWhile (fun c => decide (c.toNat ≤ 0x20)) = cs := by
  cases cs with
  | nil => rfl
  | cons c cs =>
      have high := first c rfl
      simp only [isSolid, decide_eq_true_eq] at high
      rw [List.dropWhile_cons_of_neg (by simp; omega)]

theorem solid_last (cs : List Char) (solid : cs.all isSolid = true) (c : Char)
    (last : cs.reverse.head? = some c) : isSolid c = true :=
  List.all_eq_true.mp solid c (List.mem_reverse.mp (List.mem_of_mem_head? last))

-- Nothing is trimmed off such a text, so only tabs and line ends go, and only from its first part.
theorem cleaned_append (text rest : List Char)
    (first : ∀ c, (text ++ rest).head? = some c → isSolid c = true)
    (solid : rest.all isSolid = true) (more : rest ≠ []) :
    cleaned (text ++ rest) = untabbed text ++ rest := by
  have kept_end : (text ++ rest).reverse.dropWhile (fun c => decide (c.toNat ≤ 0x20)) =
      (text ++ rest).reverse := by
    apply dropWhile_blanks
    intro c last
    apply solid_last rest solid c
    rw [List.reverse_append] at last
    cases backwards : rest.reverse with
    | nil => exact absurd (List.reverse_eq_nil_iff.mp backwards) more
    | cons d ds =>
        rw [backwards] at last
        exact last
  have tail := untabbed_solid rest solid
  unfold cleaned
  dsimp only
  rw [dropWhile_blanks _ first, kept_end, List.reverse_reverse, List.filter_append]
  exact congrArg (untabbed text ++ ·) tail

theorem cleaned_front (front rest : List Char) (solid : front.all isSolid = true)
    (some_ : front ≠ []) : ∃ kept, cleaned (front ++ rest) = front ++ kept := by
  have kept_start : (front ++ rest).dropWhile (fun c => decide (c.toNat ≤ 0x20)) =
      front ++ rest := by
    apply dropWhile_blanks
    intro c first
    cases front with
    | nil => exact absurd rfl some_
    | cons d front =>
        cases first
        exact List.all_eq_true.mp solid _ List.mem_cons_self
  have kept_end : ∃ last, (front ++ rest).reverse.dropWhile (fun c => decide (c.toNat ≤ 0x20)) =
      last ++ front.reverse := by
    rw [List.reverse_append, List.dropWhile_append, dropWhile_blanks _ (solid_last front solid)]
    split
    · exact ⟨[], rfl⟩
    · exact ⟨_, rfl⟩
  obtain ⟨last, kept_end⟩ := kept_end
  have whole := untabbed_solid front solid
  refine ⟨untabbed last.reverse, ?_⟩
  unfold cleaned
  dsimp only
  rw [kept_start, kept_end, List.reverse_append, List.reverse_reverse, List.filter_append]
  exact congrArg (· ++ untabbed last.reverse) whole

theorem cleaned_head (front rest : List Char) (solid : front.all isSolid = true) (some_ : front ≠ [])
    (first : ∀ c, rest.head? = some c → isSolid c = true) :
    ∃ kept, cleaned (front ++ rest) = front ++ kept ∧ kept.head? = rest.head? := by
  cases rest with
  | nil =>
      refine ⟨[], ?_, rfl⟩
      rw [List.append_nil]
      apply cleaned_append [] front _ solid some_
      exact fun c first => List.all_eq_true.mp solid c (List.mem_of_mem_head? first)
  | cons c rest =>
      have longer : (front ++ [c]).all isSolid = true := by
        rw [List.all_append, solid, List.all_cons, first c rfl]
        rfl
      obtain ⟨kept, whole⟩ := cleaned_front (front ++ [c]) rest longer (by simp)
      exact ⟨c :: kept, by simpa using whole, rfl⟩

theorem cleaned_fragment (front fragment : List Char) (solid : front.all isSolid = true)
    (some_ : front ≠ []) (mark : ∀ c, fragment.head? = some c → c = '#') :
    ∃ kept, cleaned (front ++ fragment) = front ++ kept ∧
      ∀ c, kept.head? = some c → c = '#' := by
  obtain ⟨kept, whole, same⟩ := cleaned_head front fragment solid some_ (fun c first => by
    cases mark c first
    decide)
  exact ⟨kept, whole, fun c first => mark c (same ▸ first)⟩

/-! ## Schemes -/

/-- A text that is a scheme as it stands. -/
def isBare (text : List Char) : Bool :=
  text.head?.map Char.isAlpha == some true && text.all isSchemeChar

inductive Reading where
  | file
  | web
  | plain
  deriving DecidableEq, Repr

/-- How what stands behind a scheme is read. -/
def readingOf (scheme : List Char) : Reading :=
  if isFile scheme then .file else if isSpecial scheme then .web else .plain

def reading? (text : List Char) : Option Reading :=
  if isBare text then some (readingOf (Text.lower text)) else none

theorem splitScheme_bare (text rest : List Char) (bare : isBare text = true) :
    splitScheme (text ++ ':' :: rest) = some (Text.lower text, rest) := by
  simp only [isBare, Bool.and_eq_true, beq_iff_eq] at bare
  have taken : (text ++ ':' :: rest).takeWhile isSchemeChar = text := by
    apply Text.takeWhile_all
    · exact List.all_eq_true.mp bare.2
    · intro c first
      cases first
      decide
  have started : (text ++ ':' :: rest).head?.map Char.isAlpha = some true := by
    cases text with
    | nil => cases bare.1
    | cons c text => exact bare.1
  unfold splitScheme
  simp only [started, if_true, taken, List.drop_left]

theorem splitScheme_append (text rest : List Char) (ended : text.all isSchemeChar = false) :
    splitScheme (text ++ rest) =
      (splitScheme text).map fun (scheme, behind) => (scheme, behind ++ rest) := by
  obtain ⟨front, c, behind, rfl, schemes, other⟩ := Text.cut_at_failure isSchemeChar text ended
  have taken : ∀ more, (front ++ c :: more).takeWhile isSchemeChar = front := by
    intro more
    apply Text.takeWhile_all _ _ _ schemes
    intro d first
    cases first
    exact other
  have whole : (front ++ c :: behind) ++ rest = front ++ c :: (behind ++ rest) := by simp
  have started : (front ++ c :: (behind ++ rest)).head? = (front ++ c :: behind).head? := by
    cases front with
    | nil => rfl
    | cons d front => rfl
  unfold splitScheme
  rw [whole]
  simp only [taken, List.drop_left, started]
  split
  · by_cases colon : c = ':'
    · subst colon
      rfl
    · split
      · rename_i same
        cases same
        exact absurd rfl colon
      · split
        · rename_i same
          cases same
          exact absurd rfl colon
        · rfl
  · rfl

theorem splitScheme_unstarted (text rest : List Char)
    (unstarted : (text ++ rest).head?.map Char.isAlpha ≠ some true) :
    splitScheme (text ++ rest) = none := by
  unfold splitScheme
  rw [if_neg unstarted]

/-- Of the texts whose characters fit, only the first one keeps some from being schemes. -/
theorem unstarted_of_unread (text rest : List Char) (fits : text.all isSchemeChar = true)
    (unread : reading? text = none) :
    (text ++ ("://".toList ++ rest)).head?.map Char.isAlpha ≠ some true := by
  intro started
  unfold reading? at unread
  split at unread
  · cases unread
  · rename_i unfit
    apply unfit
    cases text with
    | nil => cases started
    | cons c text =>
        simp only [isBare, fits, Bool.and_true, beq_iff_eq]
        exact started

/-! ## What stands behind a scheme -/

def hostedPathOf (special : Bool) (cs : List Char) : Except UrlError (List Char) :=
  (placeAhead special cs).map fun (_, rest) =>
    Path.render (hostedPath false special (splitPath rest).1)

theorem parseHosted_path (scheme cs : List Char) :
    (parseHosted scheme cs).map path = hostedPathOf (isSpecial scheme) cs := by
  rw [parseHosted_eq]
  unfold hostedPathOf
  cases placeAhead (isSpecial scheme) cs with
  | error e => rfl
  | ok pair => rfl

/-- The URL of a file as it can be read: without a host, or with one that its text names. -/
inductive ReadAsFile : Url → Prop
  | unhosted (cs rest : List Char) : ReadAsFile (fileUrl (.domain []) (Path.segments true true cs) rest)
  | hosted (name : List Char) (host : Host) (cs rest : List Char) (named : Host.parse name = .ok host)
      (other : host ≠ .domain "localhost".toList) : ReadAsFile (fileUrl host (hostedPath true true cs) rest)

theorem parseFileHost_ok (cs : List Char) (url : Url) (read : parseFileHost cs = .ok url) : ReadAsFile url := by
  unfold parseFileHost at read
  dsimp only at read
  -- Where the name ends does not matter, so a drive in its place needs no case of its own.
  generalize (if Path.isDrive (cs.takeWhile (!endsAuthority true ·)) then ([], cs)
    else (cs.takeWhile (!endsAuthority true ·),
      cs.drop (cs.takeWhile (!endsAuthority true ·)).length)) = split at read
  obtain ⟨name, rest⟩ := split
  dsimp only at read
  split at read
  · cases read
    exact .unhosted _ _
  · cases parsed : Host.parse name with
    | error e =>
        rw [parsed] at read
        cases read
    | ok host =>
        rw [parsed] at read
        dsimp only at read
        split at read
        · cases read
          exact .unhosted _ _
        · rename_i other
          cases read
          exact .hosted name host _ _ parsed other

theorem parseFile_ok (cs : List Char) (url : Url) (read : parseFile cs = .ok url) : ReadAsFile url := by
  unfold parseFile at read
  dsimp only at read
  split at read
  · split at read
    · exact parseFileHost_ok _ url read
    · split at read
      · cases read
        exact .unhosted _ _
      · cases read
        exact .unhosted _ _
  · cases read
    exact .unhosted _ _
  · cases read
    exact .unhosted _ _

def pathBehind : Reading → List Char → Except UrlError (List Char)
  | .file, cs => (parseFileHost cs).map path
  | .web, cs => hostedPathOf true (cs.dropWhile (Path.isSeparator true))
  | .plain, cs => hostedPathOf false cs

def parseSolid (cs : List Char) : Except UrlError Url :=
  match splitScheme cs with
  | none => .error .relative
  | some (scheme, rest) =>
      if isFile scheme then parseFile rest
      else if isSpecial scheme then parseHosted scheme (rest.dropWhile (Path.isSeparator true))
      else parsePlain scheme rest

theorem parse_eq (cs : List Char) : parse cs = parseSolid (cleaned cs) := rfl

theorem parseSolid_path (text rest : List Char) (reading : Reading)
    (read : reading? text = some reading) :
    (parseSolid (text ++ "://".toList ++ rest)).map path = pathBehind reading rest := by
  unfold reading? at read
  split at read
  · rename_i bare
    cases read
    have scheme := splitScheme_bare text ('/' :: '/' :: rest) bare
    have shape : text ++ "://".toList ++ rest = text ++ ':' :: '/' :: '/' :: rest := by simp
    unfold parseSolid
    rw [shape, scheme]
    dsimp only
    unfold readingOf
    by_cases file : isFile (Text.lower text)
    · simp only [if_pos file]
      rfl
    · simp only [if_neg file]
      by_cases special : isSpecial (Text.lower text)
      · simp only [if_pos special]
        rw [parseHosted_path, special]
        rfl
      · simp only [if_neg special]
        change (parseHosted _ rest).map path = _
        rw [parseHosted_path, Bool.eq_false_iff.mpr special]
        rfl
  · cases read

end AccessGate.Url
