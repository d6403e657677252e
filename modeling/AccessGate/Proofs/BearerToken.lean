import AccessGate.Proofs.AddressChain
import AccessGate.Proofs.QuerySource
import AccessGate.Proofs.WrittenForm

/-!
The token from the caller to the policy service. It is read off the first header that has the right form, or
else off the query, and is shown to the service as it came.
-/

namespace AccessGate

variable {σ : Type}

/-- Visible ASCII. -/
def Text.isVisible (c : Char) : Bool := 0x21 ≤ c.toNat && c.toNat ≤ 0x7E

namespace Request

open Http (Headers)
open Proxy (isPad characters)

/-! ## The header -/

/-- Visible ASCII, with spaces and tabs in between only. -/
structure Plain (token : List Char) : Prop where
  chars : ∀ c ∈ token, Text.isVisible c = true ∨ isPad c = true
  begins : ∃ c, token.head? = some c ∧ Text.isVisible c = true
  ends : ∃ c, token.getLast? = some c ∧ Text.isVisible c = true

/-- A value that shows a token: the name of the scheme in letters of any case, a space, and the token with
spaces and tabs around it. -/
def Bears (value : Http.Octets) (token : List Char) : Prop :=
  ∃ scheme lead trail, value = Utf8.encode (scheme ++ ' ' :: (lead ++ (token ++ trail))) ∧
    Text.lower scheme = "bearer".toList ∧ (∀ c ∈ lead ++ trail, isPad c = true) ∧ Plain token

/-- The first header shows a token. -/
def Headed (headers : Headers) (token : List Char) : Prop :=
  ∃ value rest, headers.getAll "authorization" = value :: rest ∧ Bears value token

/-- The first value of the parameter for tokens. -/
def Queried (url : Url) (token : List Char) : Prop :=
  ∃ before after, url.queryPairs = before ++ ("access_token".toList, token) :: after ∧
    ∀ pair ∈ before, pair.1 ≠ "access_token".toList

/-- The token of a request, by whichever tells it first: a header, the query. -/
inductive Bearing (headers : Headers) (url : Url) : Option String → Prop
  | header (token : List Char) (headed : Headed headers token) :
      Bearing headers url (some (String.ofList token))
  | query (unheaded : ∀ token, ¬ Headed headers token) (token : List Char) (queried : Queried url token)
      (some_ : token ≠ []) : Bearing headers url (some (String.ofList token))
  | none (unheaded : ∀ token, ¬ Headed headers token) (unqueried : ∀ token, Queried url token → token = []) :
      Bearing headers url none

theorem encode_text (cs : List Char) (ascii : ∀ c ∈ cs, c.toNat < 0x80) :
    characters (Utf8.encode cs) = cs := by
  induction cs with
  | nil => rfl
  | cons c cs ih =>
      have small := ascii c List.mem_cons_self
      have rest := ih fun d member => ascii d (List.mem_cons_of_mem _ member)
      unfold Utf8.encode characters at rest ⊢
      rw [List.flatMap_cons, Utf8.encodeChar_ascii c small, List.singleton_append, List.map_cons, rest,
        Utf8.octet_toNat _ (by omega), Char.ofNat_toNat]

theorem encode_characters (value : Http.Octets) (textual : value.all Http.isTextOctet = true) :
    Utf8.encode (characters value) = value := by
  induction value with
  | nil => rfl
  | cons b value ih =>
      simp only [List.all_cons, Bool.and_eq_true] at textual
      have small := (Proxy.characters_text [b] (by simp [textual.1]) (Char.ofNat b.toNat)
        (by simp [characters])).1
      have table := Proxy.of_octets (fun b => Http.isTextOctet b = true →
        UInt8.ofNat (Char.ofNat b.toNat).toNat = b) (by decide +kernel) b textual.1
      unfold Utf8.encode characters at ih ⊢
      rw [List.map_cons, List.flatMap_cons, Utf8.encodeChar_ascii _ small, table, ih textual.2]
      rfl

theorem text_octet (c : Char) (known : Text.isVisible c = true ∨ isPad c = true) :
    c.toNat < 0x80 ∧ Http.isTextOctet (UInt8.ofNat c.toNat) = true := by
  have ascii : c.toNat < 0x80 := by
    rcases known with visible | pad
    · simp only [Text.isVisible, Bool.and_eq_true, decide_eq_true_eq] at visible
      omega
    · simp only [isPad, Bool.or_eq_true, beq_iff_eq] at pad
      rcases pad with rfl | rfl
      · decide
      · decide
  exact ⟨ascii, Text.of_ascii (fun c => Text.isVisible c = true ∨ isPad c = true →
    Http.isTextOctet (UInt8.ofNat c.toNat) = true) (by decide) c ascii known⟩

theorem textual_iff (value : Http.Octets) (text : List Char) :
    Http.textual? value = some text ↔
      value = Utf8.encode text ∧ ∀ c ∈ text, Text.isVisible c = true ∨ isPad c = true := by
  constructor
  · intro read
    obtain ⟨rfl, textual⟩ := Proxy.textual_some value text read
    refine ⟨(encode_characters value textual).symm, fun c member => ?_⟩
    obtain ⟨b, inside, rfl⟩ := List.mem_map.mp member
    exact Proxy.of_octets (fun b => Http.isTextOctet b = true →
      Text.isVisible (Char.ofNat b.toNat) = true ∨ isPad (Char.ofNat b.toNat) = true) (by decide +kernel) b
      (List.all_eq_true.mp textual b inside)
  · rintro ⟨rfl, chars⟩
    have all : (Utf8.encode text).all Http.isTextOctet = true := by
      rw [List.all_eq_true]
      intro b member
      obtain ⟨c, inside, octet⟩ := List.mem_flatMap.mp member
      obtain ⟨ascii, known⟩ := text_octet c (chars c inside)
      rw [Utf8.encodeChar_ascii c ascii, List.mem_singleton] at octet
      rwa [octet]
    have whole := encode_text text fun c member => (text_octet c (chars c member)).1
    exact (if_pos all).trans (congrArg some whole)

theorem pad_iff_blank (c : Char) (known : Text.isVisible c = true ∨ isPad c = true) :
    (Text.isBlank c = true ↔ isPad c = true) ∧ (Text.isBlank c = false ↔ Text.isVisible c = true) :=
  Text.of_ascii (fun c => Text.isVisible c = true ∨ isPad c = true →
    (Text.isBlank c = true ↔ isPad c = true) ∧ (Text.isBlank c = false ↔ Text.isVisible c = true))
    (by decide) c (text_octet c known).1 known

theorem bearer_letters (scheme : List Char) (named : Text.lower scheme = "bearer".toList) :
    ∀ c ∈ scheme, Text.isVisible c = true := by
  have word : ∀ c ∈ "bearer".toList, Text.isVisible c = true := Text.each_of_all _ _ (by decide)
  intro c member
  rcases Text.toLower_letter c with same | ⟨upper, -⟩
  · apply word
    rw [← named, ← same]
    exact List.mem_map_of_mem member
  · have range := Text.alphanum_range c (Text.alphanum_of_alpha c (Bool.or_eq_true_iff.mpr (.inl upper)))
    simp only [Text.isVisible, Bool.and_eq_true, decide_eq_true_eq]
    omega

theorem plain_iff_trimmed (lead token trail : List Char)
    (known : ∀ c ∈ lead ++ (token ++ trail), Text.isVisible c = true ∨ isPad c = true) :
    (∀ c ∈ lead ++ trail, isPad c = true) ∧ Plain token ↔ Text.Trimmed lead token trail ∧ token ≠ [] := by
  have inside : ∀ c ∈ token, c ∈ lead ++ (token ++ trail) := fun c member => by simp [member]
  have around : ∀ c ∈ lead ++ trail, c ∈ lead ++ (token ++ trail) := by
    intro c member
    simp only [List.mem_append] at member ⊢
    tauto
  constructor
  · rintro ⟨pads, plain⟩
    obtain ⟨front, starts, visible⟩ := plain.begins
    obtain ⟨back, stops, seen⟩ := plain.ends
    have blank : ∀ c ∈ lead ++ trail, Text.isBlank c = true :=
      fun c member => (pad_iff_blank c (known c (around c member))).1.mpr (pads c member)
    refine ⟨⟨fun c member => blank c (by simp [member]), fun c member => blank c (by simp [member]), ?_, ?_⟩, ?_⟩
    · intro c first
      cases starts.symm.trans first
      exact (pad_iff_blank front (.inl visible)).2.mpr visible
    · intro c last
      cases stops.symm.trans last
      exact (pad_iff_blank back (.inl seen)).2.mpr seen
    · rintro rfl
      cases starts
  · rintro ⟨parts, some_⟩
    refine ⟨fun c member => ?_, fun c member => known c (inside c member), ?_, ?_⟩
    · have blank : Text.isBlank c = true := (List.mem_append.mp member).elim (parts.lead c) (parts.trail c)
      exact (pad_iff_blank c (known c (around c member))).1.mp blank
    · obtain ⟨c, rest, rfl⟩ := List.exists_cons_of_ne_nil some_
      exact ⟨c, rfl, (pad_iff_blank c (known c (inside c (by simp)))).2.mp (parts.begins c rfl)⟩
    · have last := List.getLast?_eq_some_getLast some_
      exact ⟨_, last, (pad_iff_blank _ (known _ (inside _ (List.getLast_mem some_)))).2.mp (parts.ends _ last)⟩

theorem bears_iff (value : Http.Octets) (token : List Char) :
    Bears value token ↔ ∃ scheme behind, Http.textual? value = some (scheme ++ ' ' :: behind) ∧
      Text.lower scheme = "bearer".toList ∧ Text.trim behind = token ∧ token ≠ [] := by
  constructor
  · rintro ⟨scheme, lead, trail, rfl, named, pads, plain⟩
    have known : ∀ c ∈ lead ++ (token ++ trail), Text.isVisible c = true ∨ isPad c = true := by
      intro c member
      simp only [List.mem_append] at member
      rcases member with front | inside | back
      · exact .inr (pads c (by simp [front]))
      · exact plain.chars c inside
      · exact .inr (pads c (by simp [back]))
    obtain ⟨trimmed, some_⟩ := (plain_iff_trimmed lead token trail known).mp ⟨pads, plain⟩
    refine ⟨scheme, lead ++ (token ++ trail), (textual_iff _ _).mpr ⟨rfl, fun c member => ?_⟩, named,
      Text.trim_of_trimmed lead token trail trimmed, some_⟩
    rcases List.mem_append.mp member with inside | behind
    · exact .inl (bearer_letters scheme named c inside)
    · rcases List.mem_cons.mp behind with rfl | inside
      · exact .inr rfl
      · exact known c inside
  · rintro ⟨scheme, behind, read, named, trimmed, some_⟩
    obtain ⟨rfl, chars⟩ := (textual_iff _ _).mp read
    obtain ⟨lead, trail, rfl, parts⟩ := (Text.trim_eq_iff behind token).mp trimmed
    have known : ∀ c ∈ lead ++ (token ++ trail), Text.isVisible c = true ∨ isPad c = true :=
      fun c member => chars c (List.mem_append_right _ (List.mem_cons_of_mem _ member))
    obtain ⟨pads, plain⟩ := (plain_iff_trimmed lead token trail known).mpr ⟨parts, some_⟩
    exact ⟨scheme, lead, trail, rfl, named, pads, plain⟩

theorem headerToken_iff (headers : Headers) (token : List Char) :
    headerToken? headers = some token ↔ ∃ scheme behind,
      headers.text? "authorization" = some (scheme ++ ' ' :: behind) ∧
        Text.lower scheme = "bearer".toList ∧ Text.trim behind = token ∧ token ≠ [] := by
  have opened : headerToken? headers = (headers.text? "authorization").bind fun value =>
      (Text.cut ' ' value).2.bind fun behind =>
        if Text.sameIgnoringCase (Text.cut ' ' value).1 "bearer".toList then nonEmpty? (Text.trim behind)
        else none := by
    unfold headerToken? header?
    cases headers.text? "authorization" with
    | none => rfl
    | some value =>
        simp only [Option.bind_some]
        rcases Text.cut ' ' value with ⟨scheme, _ | behind⟩
        · rfl
        · rfl
  have sameScheme : ∀ scheme, Text.sameIgnoringCase scheme "bearer".toList = true ↔
      Text.lower scheme = "bearer".toList := fun scheme => beq_iff_eq
  rw [opened]
  constructor
  · intro found
    obtain ⟨value, read, rest⟩ := Option.bind_eq_some_iff.mp found
    obtain ⟨behind, spaced, shown⟩ := Option.bind_eq_some_iff.mp rest
    split at shown
    · rename_i named
      obtain ⟨trimmed, some_⟩ := (nonEmpty?_iff _ token).mp shown
      have whole := Text.cut_eq ' ' value
      rw [spaced] at whole
      exact ⟨_, behind, read.trans (congrArg some whole), (sameScheme _).mp named, trimmed, some_⟩
    · cases shown
  · rintro ⟨scheme, behind, read, named, trimmed, some_⟩
    have free : ' ' ∉ scheme := fun member => by cases bearer_letters scheme named ' ' member
    have parts : Text.cut ' ' (scheme ++ ' ' :: behind) = (scheme, some behind) := by
      rw [Form.cut_front ' ' scheme _ free]
      simp [Text.cut]
    simp only [read, Option.bind_some, parts, (sameScheme scheme).mpr named, if_true]
    exact (nonEmpty?_iff _ token).mpr ⟨trimmed, some_⟩

theorem headed_iff (headers : Headers) (token : List Char) :
    Headed headers token ↔ headerToken? headers = some token := by
  rw [headerToken_iff, Headers.text?_eq]
  constructor
  · rintro ⟨value, rest, values, bears⟩
    obtain ⟨scheme, behind, read, found⟩ := (bears_iff value token).mp bears
    exact ⟨scheme, behind, by simp [values, read], found⟩
  · rintro ⟨scheme, behind, read, found⟩
    cases values : headers.getAll "authorization" with
    | nil => simp [values] at read
    | cons value rest =>
        refine ⟨value, rest, values, (bears_iff value token).mpr ⟨scheme, behind, ?_, found⟩⟩
        simpa [values] using read

/-! ## The query -/

theorem queryToken_iff (url : Url) (token : List Char) :
    queryToken? url = some token ↔ Queried url token ∧ token ≠ [] := by
  have first : ∀ value, url.queryPairs.find? (·.1 == tokenParameter) = some (tokenParameter, value) ↔
      Queried url value := by
    intro value
    rw [List.find?_eq_some_iff_append]
    constructor
    · rintro ⟨-, before, after, pairs, others⟩
      exact ⟨before, after, pairs, fun pair member => bne_iff_ne.mp (others pair member)⟩
    · rintro ⟨before, after, pairs, others⟩
      exact ⟨by simp, before, after, pairs, fun pair member => bne_iff_ne.mpr (others pair member)⟩
  unfold queryToken?
  rw [Option.bind_eq_some_iff]
  constructor
  · rintro ⟨⟨name, value⟩, found, shown⟩
    have named : name = tokenParameter := by simpa using List.find?_some found
    obtain ⟨rfl, some_⟩ := (nonEmpty?_iff value token).mp shown
    exact ⟨(first value).mp (named ▸ found), some_⟩
  · rintro ⟨queried, some_⟩
    exact ⟨_, (first token).mpr queried, (nonEmpty?_iff token token).mpr ⟨rfl, some_⟩⟩

theorem bearing_iff (headers : Headers) (url : Url) (told : Option String) :
    Bearing headers url told ↔ tokenOf headers url = told := by
  have unheaded_iff : (∀ token, ¬ Headed headers token) ↔ headerToken? headers = none := by
    rw [Option.eq_none_iff_forall_ne_some]
    exact forall_congr' fun token => not_congr (headed_iff headers token)
  have unqueried_iff : (∀ token, Queried url token → token = []) ↔ queryToken? url = none := by
    rw [Option.eq_none_iff_forall_ne_some]
    refine forall_congr' fun token => ?_
    rw [Ne, queryToken_iff, not_and_not_right]
  unfold tokenOf
  constructor
  · intro bearing
    cases bearing with
    | header token headed => simp [(headed_iff headers token).mp headed]
    | query unheaded token queried some_ =>
        simp [unheaded_iff.mp unheaded, (queryToken_iff url token).mpr ⟨queried, some_⟩]
    | none unheaded unqueried => simp [unheaded_iff.mp unheaded, unqueried_iff.mp unqueried]
  · rintro rfl
    cases shown : headerToken? headers with
    | some token => exact .header token ((headed_iff headers token).mpr shown)
    | none =>
        have unheaded := unheaded_iff.mpr shown
        cases asked : queryToken? url with
        | some token =>
            obtain ⟨queried, some_⟩ := (queryToken_iff url token).mp asked
            exact .query unheaded token queried some_
        | none => exact .none unheaded (unqueried_iff.mpr asked)

end Request

end AccessGate
