import AccessGate.Proofs.Http.Target
import AccessGate.Proofs.Url.Rendered

/-!
Targets with the scheme of a web server. Reading one keeps its text, apart from a slash that stands for
an empty path.
-/

namespace AccessGate.Http.Target

open Url (IsWeb)

/-- A path that begins with a slash, and a query. -/
def rooted (rest : List Char) : List Char :=
  if rest.head? = some '/' then rest else '/' :: rest

theorem isScheme_of_web (scheme : List Char) (web : IsWeb scheme) : IsScheme scheme :=
  web.imp_right .inl

theorem parse_web (scheme name rest : List Char) (target : Target) (web : IsWeb scheme)
    (inside : ∀ c ∈ name, Authority.endsAuthority c = false)
    (closes : ∀ c, rest.head? = some c → Authority.endsAuthority c = true) (named : name ≠ [])
    (read : parse (scheme ++ "://".toList ++ (name ++ rest)) = .ok target) :
    ∃ path query, pathAndQuery rest = .ok (path, query) ∧
      target = .absolute scheme name path query := by
  have text : scheme ++ "://".toList ++ (name ++ rest) =
      scheme ++ ':' :: '/' :: '/' :: (name ++ rest) := by simp
  have full : parseFull (scheme ++ ':' :: '/' :: '/' :: (name ++ rest)) = .ok target := by
    rw [text] at read
    unfold parse at read
    split at read
    · cases read
    · rcases web with rfl | rfl
      · exact read
      · exact read
  have schemed := schemeAhead_scheme scheme (name ++ rest) (isScheme_of_web scheme web)
    (by simp [named])
  unfold parseFull at full
  rw [schemed] at full
  dsimp only at full
  cases ahead : Authority.ahead (name ++ rest) with
  | error e =>
      rw [ahead] at full
      cases full
  | ok pair =>
      obtain ⟨found, behind⟩ := pair
      obtain ⟨taken, dropped, -⟩ := Authority.ahead_ok _ found behind ahead
      have open_ : ∀ c ∈ name, (!Authority.endsAuthority c) = true := by
        intro c member
        simp [inside c member]
      have stop : ∀ c, rest.head? = some c → (!Authority.endsAuthority c) = false := by
        intro c first
        simp [closes c first]
      rw [Text.takeWhile_all _ name rest open_ stop] at taken
      rw [Text.dropWhile_all _ name rest open_ stop] at dropped
      rw [ahead, taken, dropped] at full
      cases name with
      | nil => exact absurd rfl named
      | cons c name =>
          exact split_of_map (.absolute scheme (c :: name)) rest target full

-- A fragment would be dropped here, so the text has to be without one.
theorem pathAndQuery_text (rest path : List Char) (query : Option (List Char))
    (unmarked : '#' ∉ rest) (read : pathAndQuery rest = .ok (path, query)) :
    path ++ queryText query = rest ∧ path = (Url.splitPath rest).1 := by
  have same : ∀ c, (c != '?' && c != '#') = !Url.endsPath c := by
    intro c
    simp [Url.endsPath, bne]
  have parts := List.takeWhile_append_dropWhile (p := fun c => c != '?' && c != '#') (l := rest)
  unfold pathAndQuery at read
  dsimp only at read
  rw [Text.drop_takeWhile] at read
  have taken : (Url.splitPath rest).1 = rest.takeWhile fun c => c != '?' && c != '#' := by
    simp only [Url.splitPath, same]
  split at read
  · split at read
    · rename_i behind shape
      have whole : behind.takeWhile (· != '#') = behind := by
        have free : ∀ c ∈ behind, (c != '#') = true := by
          intro c member
          rw [bne_iff_ne]
          rintro rfl
          apply unmarked
          rw [← parts, shape]
          exact List.mem_append_right _ (List.mem_cons_of_mem _ member)
        have all := Text.takeWhile_all (· != '#') behind [] free (fun c first => by cases first)
        rwa [List.append_nil] at all
      split at read
      · cases read
        rw [whole, taken]
        refine ⟨?_, rfl⟩
        conv_rhs => rw [← parts, shape]
        rfl
      · cases read
    · rename_i unqueried
      cases read
      rw [taken]
      refine ⟨?_, rfl⟩
      cases dropped : rest.dropWhile fun c => c != '?' && c != '#' with
      | nil =>
          rw [dropped, List.append_nil] at parts
          simpa [queryText] using parts
      | cons c behind =>
          have ends := Text.head?_dropWhile _ rest c (by rw [dropped]; rfl)
          have known : c = '?' ∨ c = '#' := by
            simpa [Decidable.or_iff_not_imp_left] using ends
          rcases known with rfl | rfl
          · exact absurd dropped (unqueried behind)
          · exfalso
            apply unmarked
            rw [← parts, dropped]
            simp
  · cases read

theorem render_web (scheme name rest path : List Char) (query : Option (List Char))
    (unmarked : '#' ∉ rest) (read : pathAndQuery rest = .ok (path, query))
    (closes : ∀ c, rest.head? = some c → Authority.endsAuthority c = true) :
    (absolute scheme name path query).render =
      scheme ++ "://".toList ++ (name ++ rooted rest) := by
  obtain ⟨text, taken⟩ := pathAndQuery_text rest path query unmarked read
  have slashed : orSlash path ++ queryText query = rooted rest := by
    unfold rooted orSlash
    cases path with
    | nil =>
        have other : rest.head? ≠ some '/' := by
          intro slash
          cases rest with
          | nil => cases slash
          | cons c rest =>
              cases slash
              cases taken
        rw [if_neg other, ← text]
        rfl
    | cons c path =>
        have slash : rest.head? = some '/' := by
          rw [← text]
          have ends := closes c (by rw [← text]; rfl)
          have inner : Url.endsPath c = false := by
            have member : c ∈ (Url.splitPath rest).1 := by
              rw [← taken]
              exact List.mem_cons_self
            simpa using Text.mem_takeWhile _ rest c member
          simp only [Authority.endsAuthority, Bool.or_eq_true, beq_iff_eq] at ends
          simp only [Url.endsPath, Bool.or_eq_false_iff, beq_eq_false_iff_ne] at inner
          rcases ends with (rfl | same) | same
          · rfl
          · exact absurd same inner.1
          · exact absurd same inner.2
        rw [if_pos slash, ← text]
        rfl
  rw [← slashed]
  simp [render]

/-! ## What requests go on with -/

theorem clean_unmarked (path : List Char) (query : Option (List Char)) (clean : Clean path query) :
    '#' ∉ path ++ queryText query := by
  intro mark
  rcases List.mem_append.mp mark with front | back
  · cases List.all_eq_true.mp clean.path_chars '#' front
  · cases query with
    | none => cases back
    | some query =>
        rcases List.mem_cons.mp back with other | inner
        · cases other
        · cases List.all_eq_true.mp clean.query_chars '#' inner

theorem tail_cases (target : Target) (formed : target.WellFormed) :
    target.tail = ['*'] ∨ ((target.tail.head? = some '/' ∨ target.tail.head? = some '?') ∧
      '#' ∉ target.tail) := by
  cases formed with
  | star => exact .inl rfl
  | origin path query clean => exact .inr ⟨.inl rfl, clean_unmarked _ query clean⟩
  | bare name within => exact .inr ⟨.inl rfl, (by decide : '#' ∉ ['/'])⟩
  | absolute scheme name path query known named within start clean =>
      right
      have free := clean_unmarked path query clean
      simp only [tail, pathAndQuery?, Option.getD_some, orSlash]
      split
      · exact ⟨.inl rfl, by decide⟩
      · rename_i more
        refine ⟨?_, free⟩
        rcases start with rfl | slash
        · cases query with
          | none => exact absurd rfl more
          | some query => exact .inr rfl
        · left
          rw [List.head?_append, slash]
          rfl

/-- The form of a target that asks about a server as a whole. -/
def asterisk : Target := .origin ['*'] none

-- No other target has that tail: a path begins with a slash, and an empty one with a mark or nothing.
theorem tail_asterisk (target : Target) (formed : target.WellFormed) :
    target.tail = ['*'] ↔ target = asterisk := by
  constructor
  · intro starred
    cases formed with
    | star => rfl
    | origin path query clean => cases starred
    | bare name within => cases starred
    | absolute scheme name path query known named within start clean =>
        exfalso
        simp only [tail, pathAndQuery?, Option.getD_some, orSlash] at starred
        split at starred
        · cases starred
        · rename_i more
          rcases start with rfl | slash
          · cases query with
            | none => exact more rfl
            | some query => cases starred
          · cases path with
            | nil => cases slash
            | cons c path =>
                cases slash
                cases starred
  · rintro rfl
    rfl

theorem parse_render (target : Target) (formed : target.WellFormed)
    (absolute_ : target.scheme? ≠ none) :
    Url.parse target.render = Url.parseSolid target.render := by
  cases formed with
  | star => exact absurd rfl absolute_
  | origin path query clean => exact absurd rfl absolute_
  | bare name within => exact absurd rfl absolute_
  | absolute scheme name path query known named within start clean =>
      have solid : (absolute scheme name path query).render.all Url.isSolid = true := by
        have ahead := solid_of_scheme scheme known.chars.1
        have middle := Authority.solid_of_within name within
        have behind : (orSlash path ++ queryText query).all Url.isSolid = true := by
          have whole := clean_solid path query clean
          rw [List.all_append] at whole ⊢
          cases path with
          | nil => exact whole
          | cons c path => exact whole
        simp only [render, List.append_assoc]
        rw [List.all_append, List.all_append, List.all_append, ahead, middle, behind]
        decide
      have more : (absolute scheme name path query).render ≠ [] := by simp [render]
      have whole := Url.cleaned_append [] _ (fun c first => List.all_eq_true.mp solid c
        (List.mem_of_mem_head? first)) solid more
      rw [Url.parse_eq]
      exact congrArg Url.parseSolid whole

end AccessGate.Http.Target
