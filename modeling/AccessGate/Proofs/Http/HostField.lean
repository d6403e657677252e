import AccessGate.Proofs.Http.OriginForm
import AccessGate.Proofs.Url.LetterCase
import AccessGate.Proofs.Url.Rendered

/-!
Hosts as a header tells them: a name or an address, in any case, and a port with or without leading
zeros. Their normal form is read as the same host with the same port.
-/

namespace AccessGate

namespace Text

theorem lower_free (marks cs : List Char)
    (signed : ∀ mark ∈ marks, ∀ n : Fin 128, (Char.ofNat n).toLower = mark ↔ Char.ofNat n = mark)
    (free : ∀ c ∈ cs, c ∉ marks) : ∀ c ∈ lower cs, c ∉ marks := by
  intro c member marked
  obtain ⟨d, inside, rfl⟩ := List.mem_map.mp member
  have same := (toLower_eq_iff d.toLower d (signed _ marked)).mp rfl
  exact free d inside (same ▸ marked)

end Text

namespace Http.Authority

open Text (lower valueIn digitValue? natText)

/-! ## The two parts of a host field -/

inductive IsHost : List Char → Prop where
  | name (text : List Char) (named : text ≠ []) (plain : ∀ c ∈ text, c ∉ ":@[]".toList) :
      IsHost text
  | bracketed (inner : List Char) (plain : ∀ c ∈ inner, c ∉ "@[]".toList) :
      IsHost ('[' :: inner ++ [']'])

inductive PortSuffix : List Char → Option Nat → Prop where
  | absent : PortSuffix [] none
  | unwritten : PortSuffix [':'] none
  | written (digits : List Char) (some_ : digits ≠ []) (all : ∀ c ∈ digits, c.isDigit = true)
      (fits : valueIn 10 (digits.filterMap digitValue?) ≤ 65535) :
      PortSuffix (':' :: digits) (some (valueIn 10 (digits.filterMap digitValue?)))

theorem IsHost.lower {text : List Char} (host : IsHost text) : IsHost (lower text) := by
  cases host with
  | name text named plain =>
      apply IsHost.name
      · simpa [Text.lower] using named
      · exact Text.lower_free _ text (Text.each_of_all _ _ (by decide)) plain
  | bracketed inner plain =>
      have shape : Text.lower ('[' :: inner ++ [']']) = '[' :: Text.lower inner ++ [']'] := by
        simp [Text.lower, show ('[').toLower = '[' from rfl, show (']').toLower = ']' from rfl]
      rw [shape]
      exact IsHost.bracketed _ (Text.lower_free _ inner (Text.each_of_all _ _ (by decide)) plain)

theorem IsHost.no_user {text : List Char} (host : IsHost text) : '@' ∉ text := by
  cases host with
  | name text named plain => exact fun user => plain '@' user (by decide)
  | bracketed inner plain =>
      intro user
      simp only [List.cons_append, List.mem_cons, List.mem_append, List.not_mem_nil,
        or_false] at user
      rcases user with marked | within | marked
      · cases marked
      · exact plain '@' within (by decide)
      · cases marked

theorem PortSuffix.chars {suffix : List Char} {port : Option Nat}
    (written : PortSuffix suffix port) : ∀ c ∈ suffix, c = ':' ∨ c.isDigit = true := by
  intro c member
  cases written with
  | absent => cases member
  | unwritten => exact .inl (List.mem_singleton.mp member)
  | written digits some_ all fits =>
      rcases List.mem_cons.mp member with same | digit
      · exact .inl same
      · exact .inr (all c digit)

theorem unmarked_of_port (c : Char) (known : c = ':' ∨ c.isDigit = true) : c ∉ "@[]".toList := by
  rcases known with rfl | digit
  · decide
  · intro listed
    have table : ∀ c ∈ "@[]".toList, c.isDigit = false := Text.each_of_all "@[]".toList _ rfl
    rw [table c listed] at digit
    cases digit

theorem PortSuffix.no_user {suffix : List Char} {port : Option Nat}
    (written : PortSuffix suffix port) : '@' ∉ suffix := by
  intro user
  rcases written.chars '@' user with other | digit
  · cases other
  · cases digit

theorem PortSuffix.again {suffix : List Char} {port : Option Nat}
    (written : PortSuffix suffix port) : PortSuffix (Url.Hosted.portText port) port := by
  cases written with
  | absent => exact .absent
  | unwritten => exact .absent
  | written digits some_ all fits =>
      have again := PortSuffix.written (natText (valueIn 10 (digits.filterMap digitValue?)))
        (Text.natText_ne_nil _) (Text.natText_digits _)
      rw [Text.valueIn_natText] at again
      exact again fits

/-! ## The parts are found -/

theorem afterLast_behind (mark : Char) (front last : List Char)
    (behind : Text.Behind mark front last) : afterLast mark (front ++ last) = last := by
  rw [afterLast, Text.takeWhile_behind mark front last behind, List.reverse_reverse]

theorem afterLast_unmarked (mark : Char) (cs : List Char) (unmarked : mark ∉ cs) :
    afterLast mark cs = cs :=
  afterLast_behind mark [] cs ⟨unmarked, .inl rfl⟩

theorem host_parts {text suffix : List Char} {port : Option Nat} (host_ : IsHost text)
    (written : PortSuffix suffix port) : host (text ++ suffix) = text := by
  have place : afterLast '@' (text ++ suffix) = text ++ suffix := by
    apply afterLast_unmarked
    intro user
    rcases List.mem_append.mp user with first | second
    · exact host_.no_user first
    · exact written.no_user second
  unfold host
  rw [place]
  dsimp only
  cases host_ with
  | bracketed inner plain =>
      have open_ : ∀ c ∈ '[' :: inner, (c != ']') = true := by
        intro c member
        rw [bne_iff_ne]
        rintro rfl
        rcases List.mem_cons.mp member with other | within
        · cases other
        · exact plain ']' within (by decide)
      have taken := Text.takeWhile_all (· != ']') ('[' :: inner) (']' :: suffix) open_
        (fun c first => by cases first; rfl)
      have shape : '[' :: inner ++ [']'] ++ suffix = '[' :: inner ++ ']' :: suffix := by simp
      rw [shape, taken]
      rfl
  | name text named plain =>
      have uncoloned : ∀ c ∈ text, (c != ':') = true := by
        intro c member
        rw [bne_iff_ne]
        rintro rfl
        exact plain ':' member (by decide)
      have taken := Text.takeWhile_all (· != ':') text suffix uncoloned (by
        intro c first
        cases written with
        | absent => cases first
        | unwritten => cases first; rfl
        | written digits some_ all fits => cases first; rfl)
      split
      · rename_i rest shape
        cases text with
        | nil => exact absurd rfl named
        | cons c text =>
            cases shape
            exact absurd (plain '[' List.mem_cons_self) (by decide)
      · exact taken

theorem unsigned_plain (largest : Nat) (cs : List Char) (unsigned : cs.head? ≠ some '+') :
    Text.unsigned? largest cs = (Text.natural? cs).filter (· ≤ largest) := by
  unfold Text.unsigned?
  dsimp only
  split
  · rename_i n read
    split at read
    · exact absurd rfl unsigned
    · rw [read]
      by_cases fits : n ≤ largest
      · simp [Option.filter, fits]
      · simp [Option.filter, fits]
  · rename_i unread
    split at unread
    · exact absurd rfl unsigned
    · rw [unread]
      rfl

theorem unsigned_digits (digits : List Char) (some_ : digits ≠ [])
    (all : ∀ c ∈ digits, c.isDigit = true)
    (fits : valueIn 10 (digits.filterMap digitValue?) ≤ 65535) :
    Text.unsigned? 65535 digits = some (valueIn 10 (digits.filterMap digitValue?)) := by
  have read := Text.natural?_digits digits some_ all
  have unsigned : digits.head? ≠ some '+' := by
    intro sign
    cases all '+' (List.mem_of_mem_head? sign)
  rw [unsigned_plain 65535 digits unsigned, read]
  simp [fits]

theorem unsigned_other (largest : Nat) (cs : List Char) (c : Char) (member : c ∈ cs)
    (undigited : c.isDigit = false) (unsigned : c ≠ '+') : Text.unsigned? largest cs = none := by
  have unread : ∀ digits, c ∈ digits → Text.natural? digits = none := by
    intro digits inside
    unfold Text.natural?
    rw [Text.mapM_none digitValue? digits c inside (by simp [digitValue?, undigited])]
    split
    · rfl
    · rfl
  by_cases sign : cs.head? = some '+'
  · cases cs with
    | nil => cases sign
    | cons d rest =>
        cases sign
        have inside := (List.mem_cons.mp member).resolve_left unsigned
        simp only [Text.unsigned?, unread rest inside]
  · rw [unsigned_plain largest cs sign, unread cs member]
    rfl

-- The colons of an address are followed by a bracket, which no numeral has.
theorem port_absent {text : List Char} (host : IsHost text) : port? text = none := by
  unfold port?
  split
  · rename_i coloned
    cases host with
    | name text named plain =>
        exact absurd (plain ':' (List.contains_iff_mem.mp coloned)) (by decide)
    | bracketed inner plain =>
        apply unsigned_other 65535 _ ']' _ (by decide) (by decide)
        have reversed : ('[' :: inner ++ [']']).reverse = ']' :: ('[' :: inner).reverse := by simp
        rw [afterLast, reversed, List.takeWhile_cons_of_pos (by decide)]
        simp
  · rfl

theorem port_parts {text suffix : List Char} {port : Option Nat} (host : IsHost text)
    (written : PortSuffix suffix port) : port? (text ++ suffix) = port := by
  have last : ∀ digits : List Char, (∀ c ∈ digits, c.isDigit = true) →
      port? (text ++ ':' :: digits) = Text.unsigned? 65535 digits := by
    intro digits all
    have behind : Text.Behind ':' (text ++ [':']) digits := by
      refine ⟨?_, .inr (by simp)⟩
      intro member
      cases all ':' member
    have found := afterLast_behind ':' (text ++ [':']) digits behind
    rw [List.append_assoc, List.singleton_append] at found
    unfold port?
    rw [if_pos (by simp), found]
  cases written with
  | absent => rw [List.append_nil, port_absent host]
  | unwritten => exact last [] (List.forall_mem_nil _)
  | written digits some_ all fits => rw [last digits all, unsigned_digits digits some_ all fits]

theorem normal_parts {text suffix : List Char} {port : Option Nat} (host_ : IsHost text)
    (written : PortSuffix suffix port) :
    normal (text ++ suffix) = lower text ++ Url.Hosted.portText port := by
  unfold normal
  rw [host_parts host_ written, port_parts host_ written]
  cases port with
  | none => simp [Url.Hosted.portText]
  | some port => rfl

/-! ## What is accepted as an authority -/

theorem parse_ok (cs name : List Char) (read : parse cs = .ok name) :
    name = cs ∧ ahead cs = .ok (cs, []) := by
  unfold parse at read
  split at read
  · cases read
  · split at read
    · cases read
    · rename_i found
      cases read
      obtain ⟨taken, dropped, -⟩ := ahead_ok _ _ _ found
      have parts := List.takeWhile_append_dropWhile (p := (!endsAuthority ·)) (l := cs)
      rw [← taken, ← dropped, List.append_nil] at parts
      subst parts
      exact ⟨rfl, found⟩
    · cases read

theorem ahead_append (cs name rest : List Char) (read : parse cs = .ok name)
    (ends : ∀ c, rest.head? = some c → endsAuthority c = true) :
    ahead (cs ++ rest) = .ok (cs, rest) := by
  obtain ⟨-, found⟩ := parse_ok cs name read
  have taken := (ahead_ok _ _ _ found).1
  have same : (cs ++ rest).takeWhile (!endsAuthority ·) = cs := by
    rw [Text.takeWhile_append_stop _ _ _ fun c first => by simp [ends c first], ← taken]
  unfold ahead at found ⊢
  rw [← taken] at found
  rw [same]
  dsimp only at found ⊢
  split at found
  · cases found
  · split at found
    · rename_i sound
      rw [if_pos sound, List.drop_left]
    · cases found

theorem scan_percent (s last : Scan) (cs : List Char) (scanned : scan s cs = .ok last)
    (plain : ∀ c ∈ cs, c ∉ "@[]".toList) (marked : s.percent = true ∨ '%' ∈ cs) :
    last.percent = true := by
  induction cs generalizing s with
  | nil =>
      cases scanned
      exact marked.resolve_right List.not_mem_nil
  | cons c cs ih =>
      simp only [scan] at scanned
      cases stepped : s.step c with
      | error e =>
          rw [stepped] at scanned
          cases scanned
      | ok next =>
          rw [stepped] at scanned
          apply ih next scanned fun d member => plain d (List.mem_cons_of_mem _ member)
          have kept : next.percent = true ∨ c ≠ '%' ∧ next.percent = s.percent := by
            have apart := plain c List.mem_cons_self
            unfold Scan.step at stepped
            split at stepped
            · dsimp only at stepped
              split at stepped
              · cases stepped
              · cases stepped
                exact .inr ⟨by decide, rfl⟩
            · exact absurd (by decide) apart
            · exact absurd (by decide) apart
            · exact absurd (by decide) apart
            · cases stepped
              exact .inl rfl
            · rename_i other
              dsimp only at stepped
              split at stepped
              · cases stepped
                exact .inr ⟨fun same => other same, rfl⟩
              · cases stepped
          rcases kept with held | ⟨other, held⟩
          · exact .inl held
          · rw [held]
            rcases marked with before | member
            · exact .inl before
            · exact .inr ((List.mem_cons.mp member).resolve_left fun same => other same.symm)

theorem unescaped_of_parse (text suffix name : List Char) (plain : ∀ c ∈ text, c ∉ ":@[]".toList)
    (written : ∀ c ∈ suffix, c = ':' ∨ c.isDigit = true)
    (read : parse (text ++ suffix) = .ok name) : '%' ∉ text := by
  intro marked
  obtain ⟨-, found⟩ := parse_ok _ name read
  have free : ∀ c ∈ text ++ suffix, c ∉ "@[]".toList := by
    intro c member
    rcases List.mem_append.mp member with first | second
    · intro listed
      exact plain c first (List.mem_cons_of_mem _ listed)
    · exact unmarked_of_port c (written c second)
  unfold ahead at found
  dsimp only at found
  rw [← (ahead_ok _ _ _ (parse_ok _ name read).2).1] at found
  split at found
  · cases found
  · rename_i last scanned
    have held := scan_percent _ last _ scanned free (.inr (List.mem_append_left _ marked))
    split at found
    · rename_i sound
      simp [Scan.isSound, held] at sound
    · cases found

/-! ## What a URL says with such an authority -/

theorem inside_of_within (cs : List Char) (within : cs.all isWithin = true) :
    Url.Inside true cs :=
  fun c member => not_ends_of_within c (List.all_eq_true.mp within c member)

theorem IsHost.hostText {text : List Char} (host : IsHost text)
    (within : text.all isWithin = true) : Url.HostText text := by
  have inside := inside_of_within text within
  cases host with
  | name text named plain =>
      apply Url.hostText_unbracketed text named inside fun user => plain '@' user (by decide)
      intro c member
      constructor
      · rintro rfl
        exact plain ':' member (by decide)
      · rintro rfl
        exact plain '[' member (by decide)
  | bracketed inner plain =>
      apply Url.hostText_bracketed
      · exact fun c member => inside c (by simp [member])
      · exact fun user => plain '@' user (by decide)
      · exact fun closed => plain ']' closed (by decide)

theorem PortSuffix.ahead {suffix : List Char} {port : Option Nat}
    (written : PortSuffix suffix port) :
    (∀ special, Url.hostLength special false suffix = 0) ∧ Url.portAhead suffix = .ok (port, []) := by
  have stops : ∀ special rest, Url.hostLength special false (':' :: rest) = 0 := by
    intro special rest
    rw [Url.hostLength, if_pos (by simp)]
  cases written with
  | absent => exact ⟨fun special => rfl, rfl⟩
  | unwritten => exact ⟨fun special => stops special [], rfl⟩
  | written digits some_ all fits =>
      refine ⟨fun special => stops special digits, ?_⟩
      have taken := Text.takeWhile_all Char.isDigit digits [] all (fun c first => by cases first)
      rw [List.append_nil] at taken
      have named : digits.isEmpty = false := by simpa using some_
      change Url.portBehind digits = _
      unfold Url.portBehind
      simp only [taken, List.drop_length, fits, named, and_self, if_true, Bool.false_eq_true,
        if_false]

theorem placeIn_parts {text suffix : List Char} {port : Option Nat} (host : Url.HostText text)
    (written : PortSuffix suffix port) :
    Url.placeIn true false (text ++ suffix) =
      (Url.Host.parse text).map fun asked => (⟨⟨[], []⟩, asked, port⟩, []) := by
  have free : '@' ∉ text ++ suffix := by
    intro user
    rcases List.mem_append.mp user with first | second
    · exact host.no_user first
    · exact written.no_user second
  have first : Url.infoIn false (text ++ suffix) = .ok (⟨[], []⟩, text ++ suffix) :=
    if_neg fun marked => free (List.contains_iff_mem.mp marked)
  obtain ⟨stop, third⟩ := written.ahead
  have second := host.splitHost_ahead true suffix (stop true)
  rw [show Url.Host.readIn true text = Url.Host.parse text from rfl] at second
  unfold Url.placeIn
  rw [first]
  simp only [bind, Except.bind]
  rw [second]
  cases Url.Host.parse text with
  | error e => rfl
  | ok asked =>
      simp only [Except.map]
      rw [third]
      simp only [ne_eq, not_true_eq_false, or_self, and_false, if_false]
      rfl

/-- A host field: a host and a port that are accepted as an authority. -/
structure HostField (text suffix : List Char) (port : Option Nat) : Prop where
  host : IsHost text
  written : PortSuffix suffix port
  accepted : ∃ name, parse (text ++ suffix) = .ok name

namespace HostField

variable {text suffix : List Char} {port : Option Nat}

theorem parsed (field : HostField text suffix port) : parse (text ++ suffix) = .ok (text ++ suffix) := by
  obtain ⟨name, read⟩ := field.accepted
  have same := (parse_ok _ name read).1
  rwa [same] at read

theorem within (field : HostField text suffix port) : (text ++ suffix).all isWithin = true :=
  parse_within _ _ field.parsed

theorem text_within (field : HostField text suffix port) : text.all isWithin = true := by
  have whole := field.within
  rw [List.all_append, Bool.and_eq_true] at whole
  exact whole.1

theorem nonempty (field : HostField text suffix port) : text ++ suffix ≠ [] := by
  simp [(field.host.hostText field.text_within).named]

theorem normal_eq (field : HostField text suffix port) :
    normal (text ++ suffix) = lower text ++ Url.Hosted.portText port :=
  normal_parts field.host field.written

theorem parse_lower (field : HostField text suffix port) :
    Url.Host.parse (lower text) = Url.Host.parse text := by
  obtain ⟨host, written, name, read⟩ := field
  cases host with
  | name text named plain =>
      exact Url.Host.parse_lower text (unescaped_of_parse text suffix name plain written.chars read)
  | bracketed inner plain => exact Url.Host.bracketed_lower (inner ++ [']'])

theorem placeIn_eq (field : HostField text suffix port) :
    Url.placeIn true false (text ++ suffix) =
      (Url.Host.parse text).map fun asked => (⟨⟨[], []⟩, asked, port⟩, []) :=
  placeIn_parts (field.host.hostText field.text_within) field.written

theorem placeIn_normal (field : HostField text suffix port) :
    Url.placeIn true false (normal (text ++ suffix)) =
      Url.placeIn true false (text ++ suffix) := by
  have lowered := Text.lower_all isWithin isWithin_of_letter _ field.text_within
  rw [field.normal_eq, placeIn_parts (field.host.lower.hostText lowered) field.written.again,
    field.placeIn_eq, field.parse_lower]

end HostField

end Http.Authority

end AccessGate
