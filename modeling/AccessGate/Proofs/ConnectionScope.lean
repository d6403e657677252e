import AccessGate.Proofs.Pieces
import AccessGate.Proxy.HopByHop

/-!
What is for one connection only. The fields that do not travel on are the ones that never do and the
ones that the connection fields name; all others stay as they are.
-/

namespace AccessGate

theorem Http.isTokenChar_apart (c : Char) (known : Http.isTokenChar c = true) :
    Text.isBlank c = false ∧ c ≠ ',' := by
  have signs : ∀ c ∈ "!#$%&'*+-.^_\x60|~".toList, Text.isBlank c = false ∧ c ≠ ',' :=
    Text.each_of_all _ _ (by decide)
  rcases Bool.or_eq_true_iff.mp known with letter | sign
  · have range := Text.alphanum_range c letter
    constructor
    · simp only [Text.isBlank, Bool.or_eq_false_iff, Bool.and_eq_false_iff, decide_eq_false_iff_not,
        beq_eq_false_iff_ne, ne_eq]
      omega
    · rintro rfl
      cases letter
  · exact signs c (List.contains_iff_mem.mp sign)

theorem Http.Headers.text?_eq (headers : Http.Headers) (name : String) :
    headers.text? name = (headers.getAll name).head?.bind Http.textual? := by
  rw [text?, get?, getAll, List.head?_map, List.head?_filter]

namespace Proxy

open Http (Headers)
open Text (isBlank lower)

/-! ## What connection fields name -/

/-- A text lists a field name: the name stands between commas or ends, in any case of its letters and
with blanks around it. -/
inductive Lists : List Char → String → Prop where
  | entry (front lead token trail back : List Char)
      (ahead : front = [] ∨ front.getLast? = some ',')
      (behind : ∀ c, back.head? = some c → c = ',')
      (blank : ∀ c ∈ lead ++ trail, isBlank c = true)
      (valid : Http.isToken token = true) (short : token.length ≤ 65535) :
      Lists (front ++ (lead ++ (token ++ trail) ++ back)) (String.ofList (lower token))

theorem listedIn_lists (value : List Char) (name : String) (member : name ∈ listedIn value) :
    Lists value name := by
  obtain ⟨piece, inside, named⟩ := List.mem_filterMap.mp member
  obtain ⟨front, back, rfl, ahead, behind⟩ := (Text.mem_pieces_iff ',' value piece).mp inside
  obtain ⟨lead, trail, parts, trimmed⟩ := Text.exists_trimmed piece
  unfold Http.fieldName? at named
  split at named
  · rename_i valid
    cases named
    have entry := Lists.entry front lead (Text.trim piece) trail back ahead.ends behind
      (fun c blank => (List.mem_append.mp blank).elim (trimmed.lead c) (trimmed.trail c))
      valid.1 valid.2
    rwa [← parts] at entry
  · cases named

theorem listedIn_of_lists (value : List Char) (name : String) (lists : Lists value name) :
    name ∈ listedIn value := by
  cases lists with
  | entry front lead token trail back ahead behind blank valid short =>
      obtain ⟨-, letters⟩ := Bool.and_eq_true_iff.mp valid
      have apart : ∀ c ∈ token, isBlank c = false ∧ c ≠ ',' :=
        fun c member => Http.isTokenChar_apart c (List.all_eq_true.mp letters c member)
      have unblank : ∀ c ∈ lead ++ trail, c ≠ ',' := by
        rintro c member rfl
        cases blank ',' member
      have trimmed : Text.Trimmed lead token trail := by
        constructor
        · exact fun c member => blank c (List.mem_append_left _ member)
        · exact fun c member => blank c (List.mem_append_right _ member)
        · exact fun c first => (apart c (List.mem_of_mem_head? first)).1
        · exact fun c last => (apart c (List.mem_of_getLast? last)).1
      have unmarked : ',' ∉ lead ++ (token ++ trail) := by
        simp only [List.mem_append, not_or]
        exact ⟨fun inner => unblank ',' (List.mem_append_left _ inner) rfl,
          fun inner => (apart ',' inner).2 rfl,
          fun inner => unblank ',' (List.mem_append_right _ inner) rfl⟩
      refine List.mem_filterMap.mpr ⟨lead ++ (token ++ trail), ?_, ?_⟩
      · exact (Text.mem_pieces_iff ',' _ _).mpr ⟨front, back, rfl, ⟨unmarked, ahead⟩, behind⟩
      · rw [Text.trim_of_trimmed lead token trail trimmed]
        exact if_pos ⟨valid, short⟩

/-- A name that some textual connection field lists. -/
def Nominated (headers : Headers) (name : String) : Prop :=
  ∃ value ∈ headers.getAll "connection", ∃ text, Http.textual? value = some text ∧ Lists text name

theorem mem_listed_iff (headers : Headers) (name : String) :
    name ∈ listed headers ↔ Nominated headers name := by
  constructor
  · intro member
    obtain ⟨value, known, inside⟩ := List.mem_flatMap.mp member
    cases text : Http.textual? value with
    | none => simp [text] at inside
    | some text_ =>
        rw [text] at inside
        exact ⟨value, known, text_, text, listedIn_lists text_ name inside⟩
  · rintro ⟨value, known, text, textual, lists⟩
    refine List.mem_flatMap.mpr ⟨value, known, ?_⟩
    rw [textual]
    exact listedIn_of_lists text name lists

instance (headers : Headers) (name : String) : Decidable (Nominated headers name) :=
  decidable_of_iff _ (mem_listed_iff headers name)

/-- A field that does not travel on. -/
def ConnectionScoped (headers : Headers) (name : String) : Prop :=
  name ∈ hopByHop ∨ Nominated headers name

instance (headers : Headers) (name : String) : Decidable (ConnectionScoped headers name) :=
  inferInstanceAs (Decidable (_ ∨ _))

theorem connectionScoped_iff (headers : Headers) (name : String) (travels : name ∉ hopByHop) :
    ConnectionScoped headers name ↔ Nominated headers name :=
  or_iff_right travels

theorem isConnectionScoped_iff (headers : Headers) (name : String) :
    isConnectionScoped headers name = true ↔ ConnectionScoped headers name := by
  rw [isConnectionScoped, Bool.or_eq_true_iff, List.contains_iff_mem, List.contains_iff_mem,
    mem_listed_iff]
  rfl

/-! ## What is left -/

theorem getAll_filter (keeps : String → Bool) (headers : Headers) (name : String) :
    Headers.getAll name (headers.filter fun field => keeps field.1) =
      if keeps name then headers.getAll name else [] := by
  induction headers with
  | nil => simp [Headers.getAll]
  | cons field rest ih =>
      by_cases hit : field.1 = name
      · subst hit
        cases kept : keeps field.1 <;> simp_all [Headers.getAll]
      · cases kept : keeps field.1 <;> simp_all [Headers.getAll]

theorem getAll_endToEnd (headers : Headers) (name : String) :
    (endToEnd headers).getAll name =
      if ConnectionScoped headers name then [] else headers.getAll name := by
  have chosen := getAll_filter (fun name => !isConnectionScoped headers name) headers name
  refine chosen.trans ?_
  by_cases gone : ConnectionScoped headers name
  · simp [gone, (isConnectionScoped_iff headers name).mpr gone]
  · simp [gone, mt (isConnectionScoped_iff headers name).mp gone]

theorem nominated_endToEnd (headers : Headers) (name : String) :
    ¬ Nominated (endToEnd headers) name := by
  rintro ⟨value, known, -⟩
  rw [getAll_endToEnd, if_pos (.inl (by decide))] at known
  cases known

-- Nothing is named any more, and what never travels on is gone.
theorem endToEnd_endToEnd (headers : Headers) : endToEnd (endToEnd headers) = endToEnd headers := by
  apply List.filter_eq_self.mpr
  intro field member
  have kept := (List.mem_filter.mp member).2
  have open_ : ¬ ConnectionScoped headers field.1 := by
    intro gone
    rw [(isConnectionScoped_iff headers field.1).mpr gone] at kept
    cases kept
  have again : ¬ ConnectionScoped (endToEnd headers) field.1 := by
    rintro (always | named)
    · exact open_ (.inl always)
    · exact nominated_endToEnd headers field.1 named
  simp [mt (isConnectionScoped_iff (endToEnd headers) field.1).mp again]

theorem foldl_erase (names : List String) (headers : Headers) :
    names.foldl (fun kept name => kept.erase name) headers =
      headers.filter fun field => !names.contains field.1 := by
  induction names generalizing headers with
  | nil => simp
  | cons name names ih =>
      rw [List.foldl_cons, ih, Headers.erase, List.filter_filter]
      apply List.filter_congr
      intro field _
      by_cases same : field.1 = name <;> simp [same]

/-- Names that are taken out one after the other, in any order and any number of times. -/
theorem foldl_erase_scoped (names : List String) (headers : Headers)
    (exact_ : ∀ name, name ∈ names ↔ ConnectionScoped headers name) :
    names.foldl (fun kept name => kept.erase name) headers = endToEnd headers := by
  rw [foldl_erase]
  apply List.filter_congr
  intro field _
  have same : names.contains field.1 = isConnectionScoped headers field.1 := by
    rw [Bool.eq_iff_iff, List.contains_iff_mem, exact_, isConnectionScoped_iff]
  rw [same]

/-- What is for one connection only is gone, and nothing else. All values of every other name stay, in
their order; it makes no difference in which order and how often the names are taken out, nor whether it
is done once more. -/
theorem connection_scope_exact (headers : Headers) :
    (∀ name, (endToEnd headers).getAll name =
      if name ∈ hopByHop ∨ Nominated headers name then [] else headers.getAll name) ∧
    (∀ names : List String, (∀ name, name ∈ names ↔ name ∈ hopByHop ∨ Nominated headers name) →
      names.foldl (fun kept name => kept.erase name) headers = endToEnd headers) ∧
    endToEnd (endToEnd headers) = endToEnd headers :=
  ⟨getAll_endToEnd headers, fun names => foldl_erase_scoped names headers, endToEnd_endToEnd headers⟩

example : endToEnd
    [("connection", Utf8.encode "close,\tX-Hop ,, Connection".toList), ("x-hop", [1]), ("te", [2]),
      ("x-end", [3]), ("connection", 0xFF :: Utf8.encode ",x-end".toList), ("x-hop", [4]),
      ("x-end", [5])] = [("x-end", [3]), ("x-end", [5])] := by
  decide +kernel

end Proxy

end AccessGate
