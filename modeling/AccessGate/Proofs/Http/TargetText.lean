import AccessGate.Proofs.Http.RawAuthority

/-!
The texts behind targets. The form of a target tells how its text is put together, and with that where a
reader of URLs finds scheme and authority in it.
-/

namespace AccessGate.Http.Target

/-- How the text of a target of each form is put together. -/
inductive TextOf : Target → List Char → Prop
  | star : TextOf (.origin ['*'] none) ['*']
  | origin (path rest : List Char) (query : Option (List Char)) : TextOf (.origin path query) ('/' :: rest)
  | absolute (raw scheme name path rest : List Char) (query : Option (List Char))
      (known : raw.all isSchemeChar = true) (accepted : Authority.Accepted name)
      (within : name.all Authority.isWithin = true)
      (ends : ∀ c, rest.head? = some c → Authority.endsAuthority c = true) :
      TextOf (.absolute scheme name path query) (raw ++ ':' :: '/' :: '/' :: (name ++ rest))
  | bare (name : List Char) (accepted : Authority.Accepted name)
      (within : name.all Authority.isWithin = true) : TextOf (.bare name) name

theorem schemeAhead_text (cs scheme rest : List Char)
    (read : schemeAhead cs = .ok (some (scheme, rest))) :
    ∃ raw, cs = raw ++ ':' :: '/' :: '/' :: rest ∧ raw.all isSchemeChar = true := by
  have parts := List.takeWhile_append_dropWhile (p := isSchemeChar) (l := cs)
  refine ⟨cs.takeWhile isSchemeChar, ?_, List.all_takeWhile⟩
  unfold schemeAhead at read
  dsimp only at read
  split at read
  · rename_i behind shape
    have same : rest = behind := by
      split at read
      · cases read
        rfl
      · split at read
        · cases read
        · split at read
          · cases read
          · cases read
            rfl
    rw [Text.drop_takeWhile] at shape
    rw [same, ← shape, parts]
  · cases read

theorem ahead_text (cs name rest : List Char) (named : name ≠ [])
    (read : Authority.ahead cs = .ok (name, rest)) :
    cs = name ++ rest ∧ Authority.Accepted name ∧ name.all Authority.isWithin = true ∧
      ∀ c, rest.head? = some c → Authority.endsAuthority c = true := by
  obtain ⟨taken, dropped, within⟩ := Authority.ahead_ok cs name rest read
  have parts := List.takeWhile_append_dropWhile (p := (!Authority.endsAuthority ·)) (l := cs)
  rw [← taken, ← dropped] at parts
  refine ⟨parts.symm, Authority.ahead_accepted cs name rest read named, within, ?_⟩
  intro c first
  rw [dropped] at first
  simpa using Text.head?_dropWhile _ cs c first

theorem ahead_whole (cs name : List Char) (some_ : cs ≠ []) (read : Authority.ahead cs = .ok (name, [])) :
    TextOf (.bare name) cs := by
  obtain ⟨taken, dropped, -⟩ := Authority.ahead_ok cs name [] read
  have parts := List.takeWhile_append_dropWhile (p := (!Authority.endsAuthority ·)) (l := cs)
  rw [← taken, ← dropped, List.append_nil] at parts
  subst parts
  obtain ⟨-, accepted, within, -⟩ := ahead_text name name [] some_ read
  exact .bare name accepted within

theorem parse_text (cs : List Char) (target : Target) (read : parse cs = .ok target) :
    TextOf target cs := by
  cases parse_ok cs target read with
  | star => exact .star
  | origin rest path query split => exact .origin path rest query
  | single c name place =>
      obtain ⟨same, ahead⟩ := Authority.parse_ok [c] name place
      exact ahead_whole [c] name (List.cons_ne_nil c []) (by rw [ahead, same])
  | bare _ name some_ place => exact ahead_whole cs name some_ place
  | absolute _ scheme rest name behind path query schemed named place split =>
      obtain ⟨raw, shape, known⟩ := schemeAhead_text cs scheme rest schemed
      obtain ⟨parts, accepted, within, ends⟩ := ahead_text rest name behind named place
      rw [shape, parts]
      exact .absolute raw scheme name path behind query known accepted within ends

end AccessGate.Http.Target
