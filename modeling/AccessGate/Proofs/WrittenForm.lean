import AccessGate.Proofs.Http.TargetQuery
import AccessGate.Proofs.Request

/-!
Forms that were written. Every list of names and values, of any characters, is read back from its text, and
from a URL whose query the text is.
-/

namespace AccessGate

namespace Percent

theorem decode_encode (escaped : Char → Bool) (marked : escaped '%' = true) (cs : List Char) :
    decode (encode escaped cs) = Utf8.encode cs := by
  induction cs with
  | nil => rfl
  | cons c cs ih =>
      change decode (encodeChar escaped c ++ encode escaped cs) = String.utf8EncodeChar c ++ Utf8.encode cs
      unfold encodeChar
      split
      · rename_i plain
        have other : c ≠ '%' := by
          rintro rfl
          cases marked.symm.trans plain.2
        rw [List.singleton_append, decode_other c _ other, ih]
      · rw [decode_escapes, ih]

end Percent

namespace Form

open Text (cut pieces)

theorem decodePart_encodePart (cs : List Char) : decodePart (encodePart cs) = cs := by
  have unspaced : (encodePart cs).map (fun c => if c = '+' then ' ' else c) =
      Percent.encode (fun c => !isPlain c && c != ' ') cs := by
    unfold encodePart
    rw [List.map_map]
    refine (List.map_congr_left fun c member => ?_).trans (List.map_id _)
    have other : c ≠ '+' := by
      rintro rfl
      exact Percent.not_mem_encode _ cs '+' (by decide) (by decide) member
    by_cases space : c = ' '
    · subst space
      rfl
    · simp [space, other]
  unfold decodePart
  rw [unspaced, Percent.decode_encode _ (by decide), Utf8.decodeLossy, Utf8.read_encode, List.map_map]
  exact List.map_id _

theorem unmarked_encodePart (mark : Char) (gone : isPlain mark = false) (spaceless : mark ≠ ' ')
    (plusless : mark ≠ '+') (unsigned : mark ∉ Percent.signs) (cs : List Char) : mark ∉ encodePart cs := by
  intro member
  obtain ⟨c, inside, shown⟩ := List.mem_map.mp member
  split at shown
  · exact plusless shown.symm
  · subst shown
    exact Percent.not_mem_encode _ cs c (by simp [gone, spaceless]) unsigned inside

def renderPair (pair : List Char × List Char) : List Char :=
  encodePart pair.1 ++ '=' :: encodePart pair.2

theorem renderPair_unmarked (pair : List Char × List Char) : '&' ∉ renderPair pair := by
  have free := unmarked_encodePart '&' (by decide) (by decide) (by decide) (by decide)
  simp [renderPair, free]

theorem readPair_renderPair (pair : List Char × List Char) :
    (decodePart (cut '=' (renderPair pair)).1, decodePart ((cut '=' (renderPair pair)).2.getD [])) =
      pair := by
  have free := unmarked_encodePart '=' (by decide) (by decide) (by decide) (by decide) pair.1
  rw [renderPair, cut_front '=' _ _ free]
  simp [cut, decodePart_encodePart]

theorem pieces_render (first : List Char × List Char) (others : List (List Char × List Char)) :
    pieces '&' (render (first :: others)) = (first :: others).map renderPair := by
  induction others generalizing first with
  | nil =>
      have alone : render [first] = renderPair first := by simp [render, renderPair]
      rw [alone, Text.pieces_unmarked '&' _ (renderPair_unmarked first)]
      rfl
  | cons second others ih =>
      have split : render (first :: second :: others) =
          renderPair first ++ '&' :: render (second :: others) := by
        simp [render, renderPair]
      rw [split, Text.pieces_append_mark, Text.pieces_unmarked '&' _ (renderPair_unmarked first), ih]
      rfl

theorem parse_render (pairs : List (List Char × List Char)) : parse (render pairs) = pairs := by
  cases pairs with
  | nil => rfl
  | cons first others =>
      have some_ : ∀ piece ∈ (first :: others).map renderPair, (!piece.isEmpty) = true := by
        intro piece member
        obtain ⟨pair, -, rfl⟩ := List.mem_map.mp member
        simp [renderPair]
      unfold parse
      rw [pieces_render, List.filter_eq_self.mpr some_, List.map_map]
      exact (List.map_congr_left fun pair _ => readPair_renderPair pair).trans (List.map_id _)

/-! ## Forms in queries -/

theorem encodePart_chars (cs : List Char) :
    ∀ c ∈ encodePart cs, isPlain c = true ∨ c = '+' ∨ c ∈ Percent.signs := by
  intro c member
  obtain ⟨d, inside, shown⟩ := List.mem_map.mp member
  split at shown
  · exact .inr (.inl shown.symm)
  · rename_i spaceless
    subst shown
    rcases Percent.mem_encode _ cs d inside with ⟨-, -, kept⟩ | sign
    · left
      simpa [spaceless] using kept
    · exact .inr (.inr sign)

theorem render_clean (pairs : List (List Char × List Char)) :
    (render pairs).all Url.isSolid = true ∧ '#' ∉ render pairs := by
  have plain : ∀ c, isPlain c = true → Url.isSolid c = true ∧ c ≠ '#' := by
    intro c known
    have ascii : c.toNat < 0x80 := by
      simp only [isPlain, Bool.or_eq_true, beq_iff_eq] at known
      rcases known with (((letter | rfl) | rfl) | rfl) | rfl
      · have range := Text.alphanum_range c letter
        omega
      all_goals decide
    exact Text.of_ascii (fun c => isPlain c = true → Url.isSolid c = true ∧ c ≠ '#') (by decide) c ascii
      known
  have others : ∀ c ∈ '&' :: '=' :: '+' :: Percent.signs, Url.isSolid c = true ∧ c ≠ '#' :=
    Text.each_of_all _ _ (by decide)
  have part : ∀ cs, ∀ c ∈ encodePart cs, Url.isSolid c = true ∧ c ≠ '#' := by
    intro cs c member
    rcases encodePart_chars cs c member with known | rfl | sign
    · exact plain c known
    · exact others _ (by decide)
    · exact others c (by simp [sign])
  have all : ∀ c ∈ render pairs, Url.isSolid c = true ∧ c ≠ '#' := by
    intro c member
    rcases Url.DomainName.mem_intercalate '&' c _ member with rfl | ⟨piece, listed, inside⟩
    · exact others _ (by decide)
    · obtain ⟨pair, -, rfl⟩ := List.mem_map.mp listed
      rcases List.mem_append.mp inside with name | behind
      · exact part _ c name
      · rcases List.mem_cons.mp behind with rfl | value
        · exact others _ (by decide)
        · exact part _ c value
  exact ⟨List.all_eq_true.mpr fun c member => (all c member).1, fun member => (all _ member).2 rfl⟩

end Form

namespace Url

theorem queryPairs_form (front : List Char) (pairs : List (List Char × List Char)) (url : Url)
    (unended : ∀ c ∈ front, endsPath c = false)
    (read : parse (front ++ '?' :: Form.render pairs) = .ok url) : url.queryPairs = pairs := by
  have clean := Form.render_clean pairs
  rcases parse_unended front unended with ⟨e, fails⟩ | ⟨kept, always⟩
  · cases (fails _ clean.1).symm.trans read
  · cases (always _ clean.1 clean.2).symm.trans read
    change Form.parse (Percent.encode _ (Form.render pairs)) = pairs
    rw [Form.parse_encode (harmless_query _), Form.parse_render]

theorem parse_form (front : List Char) (unended : ∀ c ∈ front, endsPath c = false) (url : Url)
    (begun : parse (front ++ ['?']) = .ok url) (pairs : List (List Char × List Char)) :
    ∃ found, parse (front ++ '?' :: Form.render pairs) = .ok found ∧ found.queryPairs = pairs := by
  have clean := Form.render_clean pairs
  rcases parse_unended front unended with ⟨e, fails⟩ | ⟨kept, always⟩
  · cases (fails [] rfl).symm.trans begun
  · have read := always _ clean.1 clean.2
    exact ⟨_, read, queryPairs_form front pairs _ unended read⟩

end Url

namespace Http.Target

theorem parse_unended (front rest : List Char) (target : Target)
    (unended : ∀ c ∈ front, Url.endsPath c = false) (unmarked : '#' ∉ rest)
    (read : parse (front ++ '?' :: rest) = .ok target) :
    ∃ form path, Queried form ∧ target = form path (some rest) := by
  rcases parse_placed (by decide : Url.endsPath '?' = true) front with
    never | ⟨form, behind, queried, inside, always⟩
  · exact absurd read (never rest target)
  · obtain ⟨path, query, split, rfl⟩ := always rest target read
    obtain ⟨-, rfl⟩ := pathAndQuery_unended behind rest path query
      (fun c member => unended c (inside c member)) unmarked split
    exact ⟨form, path, queried, rfl⟩

theorem Queried.path_unended {form : List Char → Option (List Char) → Target} (queried : Queried form)
    (path query : List Char) (formed : (form path (some query)).WellFormed) :
    ∀ c ∈ path, Url.endsPath c = false := by
  cases queried with
  | origin =>
      cases formed with
      | origin path query clean => exact unqueried_of_path _ clean.path_chars
  | absolute scheme name =>
      cases formed with
      | absolute _ _ path query known named within rooted clean =>
          exact unqueried_of_path path clean.path_chars

end Http.Target

theorem Request.ofHttp_form (method : Http.Method) (front : List Char)
    (pairs : List (List Char × List Char)) (target : Http.Target) (headers : Http.Headers)
    (peer : Option Net.SocketAddress) (request : Request)
    (unended : ∀ c ∈ front, Url.endsPath c = false)
    (parsed : Http.Target.parse (front ++ '?' :: Form.render pairs) = .ok target)
    (schemed : ∀ c ∈ Request.schemeOf target headers, Url.endsPath c = false)
    (read : Request.ofHttp method target headers peer = .ok request) :
    request.url.queryPairs = pairs := by
  have formed := Http.Target.parse_wellFormed _ target parsed
  obtain ⟨form, path, queried, rfl⟩ :=
    Http.Target.parse_unended front _ target unended (Form.render_clean pairs).2 parsed
  obtain ⟨addressed, whole⟩ := Request.ofHttp_ok _ _ _ _ _ read
  have named := Request.authorityOf_within _ headers _ formed addressed
  rw [Request.urlText, queried.tail, ← List.append_assoc, ← List.append_assoc] at whole
  refine Url.queryPairs_form _ pairs request.url ?_ whole
  intro c member
  simp only [List.mem_append] at member
  rcases member with ((scheme | mark) | authority) | inside
  · exact schemed c scheme
  · exact Text.each_of_all "://".toList (Url.endsPath · = false) (by decide) c mark
  · exact Http.Target.unqueried_of_within _ named c authority
  · exact queried.path_unended path _ formed c inside

end AccessGate
