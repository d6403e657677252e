import AccessGate.Proofs.Http.Target

/-!
Targets that are a path with a query. They are the same behind any path, and behind an authority.
-/

namespace AccessGate.Http.Target

theorem pathAndQuery_behind (front cs path : List Char) (query : Option (List Char))
    (plain : ∀ c ∈ front, (c != '?' && c != '#') = true)
    (read : pathAndQuery (front ++ cs) = .ok (path, query)) :
    ∃ rest, path = front ++ rest ∧ pathAndQuery cs = .ok (rest, query) := by
  unfold pathAndQuery at read ⊢
  dsimp only at read ⊢
  rw [List.takeWhile_append_of_pos plain, List.all_append, List.length_append,
    ← List.drop_drop, List.drop_left] at read
  split at read
  · rename_i chars
    simp only [Bool.and_eq_true] at chars
    rw [if_pos chars.2]
    split at read
    · split at read
      · rename_i queried
        cases read
        exact ⟨_, rfl, by rw [if_pos queried]⟩
      · cases read
    · cases read
      exact ⟨_, rfl, rfl⟩
  · cases read

theorem pathAndQuery_parts (cs path : List Char) (query : Option (List Char))
    (read : pathAndQuery cs = .ok (path, query)) :
    ∃ fragment, cs = path ++ queryText query ++ fragment ∧
      ∀ c, fragment.head? = some c → c = '#' := by
  have parts := List.takeWhile_append_dropWhile (p := fun c => c != '?' && c != '#') (l := cs)
  have stop := Text.head?_dropWhile (fun c => c != '?' && c != '#') cs
  unfold pathAndQuery at read
  dsimp only at read
  rw [Text.drop_takeWhile] at read
  split at read
  · split at read
    · rename_i behind shape
      split at read
      · cases read
        refine ⟨behind.dropWhile (· != '#'), ?_, ?_⟩
        · rw [List.append_assoc, queryText, List.cons_append, List.takeWhile_append_dropWhile,
            ← shape, parts]
        · intro c first
          simpa using Text.head?_dropWhile (· != '#') behind c first
      · cases read
    · rename_i unqueried
      cases read
      refine ⟨cs.dropWhile (fun c => c != '?' && c != '#'), ?_, ?_⟩
      · rw [queryText, List.append_nil, parts]
      · intro c first
        have mark := stop c first
        simp only [Bool.and_eq_false_iff, bne_eq_false_iff_eq] at mark
        rcases mark with rfl | rfl
        · cases shape : cs.dropWhile (fun c => c != '?' && c != '#') with
          | nil =>
              rw [shape] at first
              cases first
          | cons d rest =>
              rw [shape] at first
              cases first
              exact absurd shape (unqueried rest)
        · rfl
  · cases read

theorem parse_rooted (rest path : List Char) (query : Option (List Char))
    (small : Utf8.size ('/' :: rest) ≤ maxLength)
    (read : pathAndQuery ('/' :: rest) = .ok (path, query)) :
    parse ('/' :: rest) = .ok (.origin path query) := by
  unfold parse
  rw [if_neg (Nat.not_lt.mpr small)]
  simp only [read]
  rfl

theorem rooted_of_parse (rest : List Char) (target : Target)
    (read : parse ('/' :: rest) = .ok target) :
    Utf8.size ('/' :: rest) ≤ maxLength ∧ ∃ path query,
      pathAndQuery ('/' :: rest) = .ok (path, query) ∧ target = .origin path query := by
  unfold parse at read
  split at read
  · cases read
  · rename_i small
    exact ⟨Nat.le_of_not_lt small, split_of_map .origin _ target read⟩

end AccessGate.Http.Target
