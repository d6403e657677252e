import AccessGate.Proofs.Http.WebTarget
import AccessGate.Proofs.Url.Address

/-!
URLs without user information. An authority without its sign gives none, whatever stands behind it.
-/

namespace AccessGate

namespace Url

structure Userless (url : Url) : Prop where
  username : url.username = []
  password : url.password = []

theorem Userless.userInfo {url : Url} (nobody : url.Userless) : url.userInfo = [] := by
  simp [Url.userInfo, nobody.username, nobody.password]

theorem Userless.bare {url : Url} (nobody : url.Userless) :
    { url with username := [], password := [] } = url := by
  cases url
  cases nobody.username
  cases nobody.password
  rfl

def Unsigned (special : Bool) (cs : List Char) : Prop :=
  '@' ∉ cs.takeWhile (!endsAuthority special ·)

theorem unsigned_of_not_mem (special : Bool) (cs : List Char) (unsigned : '@' ∉ cs) :
    Unsigned special cs :=
  fun member => unsigned (List.takeWhile_subset _ member)

theorem unsigned_append (special : Bool) (a rest : List Char) (inside : Inside special a)
    (closes : Closes special rest) (unsigned : '@' ∉ a) : Unsigned special (a ++ rest) := by
  rw [Unsigned, takeWhile_inside special a rest inside closes]
  exact unsigned

theorem splitCredentials_unsigned (special : Bool) (cs : List Char) (unsigned : Unsigned special cs) :
    splitCredentials special cs = .ok (⟨[], []⟩, cs) := by
  have nobody : ¬ (cs.takeWhile (!endsAuthority special ·)).contains '@' = true :=
    fun sign => unsigned (List.contains_iff_mem.mp sign)
  unfold splitCredentials
  simp only [if_neg nobody]

theorem parseHosted_userless (scheme cs : List Char) (url : Url)
    (unsigned : Unsigned (isSpecial scheme) cs) (read : parseHosted scheme cs = .ok url) :
    url.Userless := by
  obtain ⟨place, rest, found, rfl⟩ := parseHosted_ok scheme cs url read
  obtain ⟨b, d, first, -, -⟩ := place_ok _ _ place rest found
  rw [splitCredentials_unsigned _ cs unsigned] at first
  obtain ⟨who, -⟩ := Prod.mk.inj (Except.ok.inj first)
  exact ⟨congrArg Credentials.username who.symm, congrArg Credentials.password who.symm⟩

theorem parseFile_userless (cs : List Char) (url : Url) (read : parseFile cs = .ok url) :
    url.Userless := by
  cases parseFile_ok cs url read with
  | unhosted => exact ⟨rfl, rfl⟩
  | hosted => exact ⟨rfl, rfl⟩

theorem parsePlain_userless (scheme cs : List Char) (url : Url)
    (unsigned : ∀ rest, cs = '/' :: '/' :: rest → Unsigned (isSpecial scheme) rest)
    (read : parsePlain scheme cs = .ok url) : url.Userless := by
  unfold parsePlain at read
  split at read
  · rename_i rest
    exact parseHosted_userless scheme rest url (unsigned rest rfl) read
  · cases read
    exact ⟨rfl, rfl⟩
  · cases read
    exact ⟨rfl, rfl⟩

/-- What stands behind the colon of a scheme names nobody. -/
structure NobodyBehind (scheme rest : List Char) : Prop where
  special : isSpecial scheme = true → Unsigned true (rest.dropWhile (Path.isSeparator true))
  plain : isSpecial scheme = false → ∀ behind, rest = '/' :: '/' :: behind → Unsigned false behind

theorem nobodyBehind_of_not_mem (scheme rest : List Char) (unsigned : '@' ∉ rest) :
    NobodyBehind scheme rest where
  special _ := unsigned_of_not_mem _ _ fun member => unsigned (List.dropWhile_subset _ member)
  plain _ behind shape := by
    subst shape
    exact unsigned_of_not_mem _ _ fun member => unsigned (by simp [member])

theorem nobodyBehind_of_authority (scheme a rest : List Char) (inside : Inside true a) (named : a ≠ [])
    (closes : ∀ special, Closes special rest) (unsigned : '@' ∉ a) :
    NobodyBehind scheme ('/' :: '/' :: (a ++ rest)) where
  special _ := by
    have dropped : ('/' :: '/' :: (a ++ rest)).dropWhile (Path.isSeparator true) = a ++ rest :=
      dropWhile_separators true a rest inside named
    rw [dropped]
    exact unsigned_append true a rest inside (closes true) unsigned
  plain _ behind shape := by
    cases shape
    exact unsigned_append false a rest (inside_any false a inside) (closes false) unsigned

theorem parseSolid_userless (cs : List Char) (url : Url)
    (nobody : ∀ scheme rest, splitScheme cs = some (scheme, rest) → NobodyBehind scheme rest)
    (read : parseSolid cs = .ok url) : url.Userless := by
  unfold parseSolid at read
  split at read
  · cases read
  · rename_i scheme rest schemed
    obtain ⟨hosted, plain⟩ := nobody scheme rest schemed
    split at read
    · exact parseFile_userless rest url read
    · split at read
      · rename_i special
        apply parseHosted_userless scheme _ url _ read
        rw [special]
        exact hosted special
      · rename_i unspecial
        have other := Bool.eq_false_iff.mpr unspecial
        apply parsePlain_userless scheme rest url _ read
        rw [other]
        exact plain other

end Url

namespace Http.Target

/-- A target whose authority, if it has one, names no user. -/
def Userless (target : Target) : Prop :=
  ∀ authority, target.authority? = some authority → '@' ∉ authority

theorem colon_free (raw : List Char) (p : Char → Bool) (other : p ':' = false)
    (known : raw.all p = true) : ':' ∉ raw := by
  intro member
  rw [List.all_eq_true.mp known ':' member] at other
  cases other

theorem nobodyBehind_absolute (scheme name path : List Char) (query : Option (List Char))
    (known : IsScheme scheme) (named : name ≠ []) (within : name.all Authority.isWithin = true)
    (rooted : path = [] ∨ path.head? = some '/') (unsigned : '@' ∉ name) (low rest : List Char)
    (schemed : Url.splitScheme (absolute scheme name path query).render = some (low, rest)) :
    Url.NobodyBehind low rest := by
  obtain ⟨raw, shape, bare, -⟩ := Url.splitScheme_some _ low rest schemed
  have text : (absolute scheme name path query).render =
      scheme ++ ':' :: ('/' :: '/' :: (name ++ (orSlash path ++ queryText query))) := by
    simp [render]
  rw [text] at shape
  have free := colon_free raw _ (by decide) (Bool.and_eq_true_iff.mp bare).2
  have free_ := colon_free scheme _ (by decide) (known.chars scheme).1
  obtain ⟨-, rfl⟩ := Text.first_unique ':' _ _ _ _ free_ free shape
  apply Url.nobodyBehind_of_authority low name _ _ named _ unsigned
  · exact fun c member => Authority.not_ends_of_within c (List.all_eq_true.mp within c member)
  · intro special c first
    have slash : (orSlash path ++ queryText query).head? = some '/' := by
      rcases rooted with rfl | first
      · rfl
      · cases path with
        | nil => cases first
        | cons d path => simpa [orSlash] using first
    rw [slash] at first
    cases first
    rfl

theorem WellFormed.parse_solid {target : Target} (formed : target.WellFormed) :
    Url.parse target.render = Url.parseSolid target.render := by
  cases formed with
  | star => rfl
  | origin path query clean =>
      have solid := clean_solid ('/' :: path) query clean
      exact congrArg Url.parseSolid (Url.cleaned_solid _ solid)
  | absolute scheme name path query known named within rooted clean =>
      exact parse_render _ (.absolute scheme name path query known named within rooted clean)
        (Option.some_ne_none scheme)
  | bare name within =>
      have solid := Authority.solid_of_within name within
      exact congrArg Url.parseSolid (Url.cleaned_solid name solid)

/-- What a client reads in the text of a target without user names no user either. -/
theorem WellFormed.url_userless {target : Target} (formed : target.WellFormed)
    (nobody : target.Userless) (url : Url) (read : Url.parse target.render = .ok url) :
    url.Userless := by
  rw [formed.parse_solid] at read
  apply Url.parseSolid_userless _ url _ read
  intro low rest schemed
  cases formed with
  | star => cases schemed
  | origin path query clean => cases schemed
  | absolute scheme name path query known named within rooted clean =>
      exact nobodyBehind_absolute scheme name path query known named within rooted (nobody name rfl)
        low rest schemed
  | bare name within =>
      have unsigned : '@' ∉ (Target.bare name).render := nobody name rfl
      obtain ⟨raw, shape, -, -⟩ := Url.splitScheme_some _ low rest schemed
      rw [shape] at unsigned
      apply Url.nobodyBehind_of_not_mem
      exact fun member => unsigned (List.mem_append_right _ (List.mem_cons_of_mem _ member))

end Http.Target

end AccessGate
