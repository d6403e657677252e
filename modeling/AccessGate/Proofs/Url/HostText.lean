import AccessGate.Proofs.Url.Authority

/-!
The texts of hosts. Whatever a host was read from, its text has none of the characters that end a host,
a port or an authority.
-/

namespace AccessGate.Url

/-! ## Names in ASCII -/

namespace Punycode

/-- What a text in Punycode consists of, besides the ASCII characters of what it stands for. -/
def letters : List Char := "-abcdefghijklmnopqrstuvwxyz0123456789".toList

theorem digit_letter (d : Nat) (small : d < 36) : digit d ∈ letters := by
  have table : ∀ d : Fin 36, digit d ∈ letters := by decide
  exact table ⟨d, small⟩

theorem threshold_le (position bias : Nat) : threshold position bias ≤ 26 := by
  unfold threshold
  omega

-- By strong induction on the delta, which each digit divides.
theorem numeral_letters (q position bias : Nat) : ∀ c ∈ numeral q position bias, c ∈ letters := by
  induction q using Nat.strongRecOn generalizing position with
  | ind q ih =>
      have low := one_le_threshold position bias
      have high := threshold_le position bias
      intro c member
      rw [numeral] at member
      split at member
      · rename_i small
        rw [List.mem_singleton.mp member]
        exact digit_letter q (by omega)
      · rename_i large
        rcases List.mem_cons.mp member with rfl | later
        · apply digit_letter
          have rest := Nat.mod_lt (q - threshold position bias)
            (show 0 < 36 - threshold position bias by omega)
          omega
        · refine ih _ ?_ _ c later
          have smaller : (q - threshold position bias) / (36 - threshold position bias) ≤
              q - threshold position bias := Nat.div_le_self _ _
          omega

-- Everything that a writer puts out after its start is a numeral.
theorem meet_letters (n : Nat) (w : Writer) (point : Nat) (P : Char → Prop)
    (numerals : ∀ c ∈ letters, P c) (before : ∀ c ∈ w.output, P c) :
    ∀ c ∈ (w.meet n point).output, P c := by
  unfold Writer.meet
  split
  · exact before
  · split
    · intro c member
      rcases List.mem_append.mp member with old | new
      · exact before c old
      · exact numerals c (numeral_letters _ _ _ c new)
    · exact before

theorem foldl_meet_letters (n : Nat) (text : List Nat) (w : Writer) (P : Char → Prop)
    (numerals : ∀ c ∈ letters, P c) (before : ∀ c ∈ w.output, P c) :
    ∀ c ∈ (text.foldl (Writer.meet n) w).output, P c := by
  induction text generalizing w with
  | nil => exact before
  | cons point text ih => exact ih _ (meet_letters n w point P numerals before)

theorem writeAll_letters (text : List Nat) (n : Nat) (points : List Nat) (w : Writer)
    (P : Char → Prop) (numerals : ∀ c ∈ letters, P c) (before : ∀ c ∈ w.output, P c) :
    ∀ c ∈ (writeAll text n points w).output, P c := by
  induction points generalizing n w with
  | nil => exact before
  | cons m points ih =>
      apply ih
      exact foldl_meet_letters m text _ P numerals before

theorem encode_letters (text : List Nat) (P : Char → Prop) (numerals : ∀ c ∈ letters, P c)
    (basic : ∀ n ∈ text, n < 128 → P (Char.ofNat n)) : ∀ c ∈ encode text, P c := by
  apply writeAll_letters _ _ _ _ _ numerals
  intro c member
  rcases List.mem_append.mp member with plain | mark
  · obtain ⟨n, inside, rfl⟩ := List.mem_map.mp plain
    obtain ⟨there, ascii⟩ := List.mem_filter.mp inside
    exact basic n there (by simpa using ascii)
  · split at mark
    · cases mark
    · rw [List.mem_singleton.mp mark]
      exact numerals '-' (by decide)

end Punycode

namespace DomainName

def InName (c : Char) : Prop := c.toNat < 128 ∧ isForbidden c = false

instance : DecidablePred InName :=
  fun c => inferInstanceAs (Decidable (c.toNat < 128 ∧ isForbidden c = false))

theorem mem_intercalate (mark c : Char) (parts : List (List Char))
    (member : c ∈ [mark].intercalate parts) : c = mark ∨ ∃ part ∈ parts, c ∈ part := by
  induction parts with
  | nil => cases member
  | cons part parts ih =>
      cases parts with
      | nil =>
          right
          exact ⟨part, List.mem_singleton_self _, by simpa using member⟩
      | cons next parts =>
          rw [List.intercalate_cons_cons] at member
          simp only [List.append_assoc, List.mem_append, List.mem_singleton] at member
          rcases member with first | same | later
          · exact .inr ⟨part, List.mem_cons_self, first⟩
          · exact .inl same
          · rcases ih later with same | ⟨other, inside, there⟩
            · exact .inl same
            · exact .inr ⟨other, List.mem_cons_of_mem _ inside, there⟩

theorem intercalate_ne_nil (mark : Char) (first : List Char) (parts : List (List Char))
    (some_ : first ≠ []) : [mark].intercalate (first :: parts) ≠ [] := by
  cases parts with
  | nil => simpa using some_
  | cons next parts =>
      rw [List.intercalate_cons_cons]
      simp [some_]

theorem inName_ofNat (n : Nat) (ascii : n < 128) (admitted : isAdmitted n = true) :
    InName (Char.ofNat n) := by
  have same : (Char.ofNat n).toNat = n := by
    have table : ∀ n : Fin 128, (Char.ofNat n).toNat = n := by decide
    exact table ⟨n, ascii⟩
  unfold isAdmitted at admitted
  rw [if_pos ascii] at admitted
  exact ⟨by omega, by simpa using admitted⟩

theorem writeLabel_inName (label : List Nat) (fits : labelFits label = true) :
    ∀ c ∈ writeLabel label, InName c := by
  have admitted : ∀ n ∈ label, isAdmitted n = true := by
    simp only [labelFits, Bool.and_eq_true] at fits
    exact List.all_eq_true.mp fits.1.1
  unfold writeLabel
  split
  · rename_i ascii
    intro c member
    obtain ⟨n, inside, rfl⟩ := List.mem_map.mp member
    have small := List.all_eq_true.mp ascii n inside
    exact inName_ofNat n (by simpa using small) (admitted n inside)
  · intro c member
    rcases List.mem_append.mp member with mark | coded
    · have table : ∀ c ∈ "xn--".toList, InName c :=
        Text.each_of_all "xn--".toList InName (by decide)
      exact table c mark
    · refine Punycode.encode_letters label InName ?_ ?_ c coded
      · exact Text.each_of_all Punycode.letters InName (by decide)
      · exact fun n inside ascii => inName_ofNat n ascii (admitted n inside)

theorem toAscii_inName (name found : List Char) (read : toAscii? name = some found) :
    ∀ c ∈ found, InName c := by
  unfold toAscii? at read
  dsimp only at read
  split at read
  · cases read
  · rename_i labels _
    split at read
    · rename_i fit
      cases read
      intro c member
      rcases mem_intercalate '.' c _ member with rfl | ⟨text, inside, there⟩
      · exact ⟨by decide, by decide⟩
      · obtain ⟨label, known, rfl⟩ := List.mem_map.mp inside
        exact writeLabel_inName label (List.all_eq_true.mp fit.1 label known) c there
    · cases read

end DomainName

/-! ## Addresses -/

theorem dotted_chars (octets : Net.Octets4) :
    ∀ c ∈ Net.Address.dotted octets, c = '.' ∨ c.isDigit = true := by
  intro c member
  rcases DomainName.mem_intercalate '.' c _ member with same | ⟨text, inside, there⟩
  · exact .inl same
  · obtain ⟨octet, -, rfl⟩ := List.mem_map.mp inside
    exact .inr (Text.natText_digits octet c there)

theorem dotted_ne_nil (octets : Net.Octets4) (some_ : octets ≠ []) :
    Net.Address.dotted octets ≠ [] := by
  cases octets with
  | nil => exact absurd rfl some_
  | cons octet octets => exact DomainName.intercalate_ne_nil '.' _ _ (Text.natText_ne_nil octet)

theorem inName_digit (c : Char) (digit : c.isDigit = true) : DomainName.InName c := by
  have table : ∀ n : Fin 128, (Char.ofNat n).isDigit = true →
      DomainName.isForbidden (Char.ofNat n) = false := by decide
  have small : c.toNat < 128 := by
    simp only [Char.isDigit, Bool.and_eq_true, decide_eq_true_eq, UInt32.le_iff_toNat_le] at digit
    exact Nat.lt_of_le_of_lt digit.2 (by decide)
  have found := table ⟨c.toNat, small⟩
  simp only [Char.ofNat_toNat] at found
  exact ⟨small, found digit⟩

theorem hexDigits_chars (n : Nat) : ∀ c ∈ Nat.toDigits 16 n, c ∈ "0123456789abcdef".toList := by
  have table : ∀ d : Fin 16, Nat.digitChar d ∈ "0123456789abcdef".toList := by decide
  induction n using Nat.strongRecOn with
  | ind n ih =>
      intro c member
      rw [Nat.toDigits_eq_if (by decide)] at member
      split at member
      · rename_i small
        rw [List.mem_singleton.mp member]
        exact table ⟨n, small⟩
      · rcases List.mem_append.mp member with front | last
        · exact ih (n / 16) (by omega) c front
        · rw [List.mem_singleton.mp last]
          exact table ⟨n % 16, Nat.mod_lt _ (by decide)⟩

theorem colons_chars (groups : List Nat) :
    ∀ c ∈ Net.Address.colons groups, c ∈ ":0123456789abcdef".toList := by
  intro c member
  rcases DomainName.mem_intercalate ':' c _ member with rfl | ⟨text, inside, there⟩
  · decide
  · obtain ⟨group, -, rfl⟩ := List.mem_map.mp inside
    exact List.mem_cons_of_mem _ (hexDigits_chars group c there)

theorem compressed_chars (groups : Net.Groups) :
    ∀ c ∈ Net.Address.compressed groups, c ∈ ":0123456789abcdef".toList := by
  unfold Net.Address.compressed
  dsimp only
  split
  · intro c member
    simp only [List.mem_append] at member
    rcases member with (front | marks) | back
    · exact colons_chars _ c front
    · have table : ∀ c ∈ "::".toList, c ∈ ":0123456789abcdef".toList :=
        Text.each_of_all "::".toList _ (by decide)
      exact table c marks
    · exact colons_chars _ c back
  · exact colons_chars groups

theorem numbers_length (parts : List (List Char)) (ns : List Nat)
    (read : V4.numbers? parts = some ns) : ns.length = parts.length := by
  induction parts generalizing ns with
  | nil =>
      cases read
      rfl
  | cons part parts ih =>
      simp only [V4.numbers?] at read
      split at read
      · obtain ⟨rest, found, rfl⟩ := Option.map_eq_some_iff.mp read
        simp [ih rest found]
      · cases read

theorem v4_some (cs : List Char) (octets : Net.Octets4) (read : V4.parse cs = .ok octets) :
    octets ≠ [] := by
  unfold V4.parse at read
  dsimp only at read
  split at read
  · cases read
  · rename_i few
    split at read
    · cases read
    · rename_i ns found
      split at read
      · cases read
      · split at read
        · cases read
          have size := numbers_length _ ns found
          intro nothing
          obtain ⟨-, rest⟩ := List.append_eq_nil_iff.mp nothing
          have short := List.drop_eq_nil_iff.mp rest
          simp only [Net.Address.octetsOf, List.length_cons, List.length_nil,
            List.length_dropLast] at short
          omega
        · cases read

/-! ## Texts of hosts -/

/-- A text that is read as a host as far as it goes, whatever follows. -/
structure HostText (text : List Char) : Prop where
  named : text ≠ []
  inside : Inside true text
  no_user : '@' ∉ text
  counted : ∀ special rest,
    hostLength special false (text ++ rest) = text.length + hostLength special false rest

-- Outside brackets a host goes on up to a colon.
theorem hostLength_plain (special : Bool) (text rest : List Char) (inside : Inside special text)
    (plain : ∀ c ∈ text, c ≠ ':' ∧ c ≠ '[') :
    hostLength special false (text ++ rest) = text.length + hostLength special false rest := by
  induction text with
  | nil => simp
  | cons c text ih =>
      have behind := ih (fun d member => inside d (List.mem_cons_of_mem _ member))
        (fun d member => plain d (List.mem_cons_of_mem _ member))
      obtain ⟨noColon, noBracket⟩ := plain c List.mem_cons_self
      have bracket : (c == '[') = false := beq_false_of_ne noBracket
      simp [hostLength, inside c List.mem_cons_self, noColon, bracket, behind]
      omega

-- Inside brackets it goes on up to the closing one.
theorem hostLength_bracketed (special : Bool) (text rest : List Char) (inside : Inside special text)
    (unclosed : ']' ∉ text) :
    hostLength special true (text ++ ']' :: rest) = text.length + 1 + hostLength special false rest := by
  induction text with
  | nil =>
      have bracket : endsAuthority special ']' = false := by
        cases special with
        | true => rfl
        | false => rfl
      simp [hostLength, bracket]
      omega
  | cons c text ih =>
      have behind := ih (fun d member => inside d (List.mem_cons_of_mem _ member))
        (fun closed => unclosed (List.mem_cons_of_mem _ closed))
      have open_ : (c != ']') = true :=
        bne_iff_ne.mpr fun closed => unclosed (closed ▸ List.mem_cons_self)
      simp [hostLength, inside c List.mem_cons_self, open_, behind]
      omega

theorem hostText_unbracketed (text : List Char) (named : text ≠ []) (inside : Inside true text)
    (free : '@' ∉ text) (plain : ∀ c ∈ text, c ≠ ':' ∧ c ≠ '[') : HostText text :=
  ⟨named, inside, free, fun special rest =>
    hostLength_plain special text rest (inside_any special text inside) plain⟩

def hostMarks : List Char := "/:?@[\\#".toList

theorem hostText_unmarked (text : List Char) (named : text ≠ []) (unmarked : ∀ c ∈ text, c ∉ hostMarks) :
    HostText text := by
  have other : ∀ c ∈ text, ∀ mark ∈ hostMarks, c ≠ mark :=
    fun c member mark marked same => unmarked c member (same ▸ marked)
  have inside : Inside true text := by
    intro c member
    simp [endsAuthority, endsPath, other c member '/' (by decide), other c member '?' (by decide),
      other c member '#' (by decide), other c member '\\' (by decide)]
  apply hostText_unbracketed text named inside (fun user => other '@' user '@' (by decide) rfl)
  exact fun c member => ⟨other c member ':' (by decide), other c member '[' (by decide)⟩

theorem hostText_plain (text : List Char) (named : text ≠ [])
    (plain : ∀ c ∈ text, DomainName.InName c) : HostText text := by
  have table : ∀ mark ∈ hostMarks, DomainName.isForbidden mark = true :=
    Text.each_of_all hostMarks _ (by decide)
  apply hostText_unmarked text named
  intro c member marked
  have free := (plain c member).2
  rw [table c marked] at free
  cases free

theorem hostText_bracketed (text : List Char) (within : Inside true text) (free : '@' ∉ text)
    (unclosed : ']' ∉ text) : HostText ('[' :: text ++ [']']) := by
  refine ⟨by simp, ?_, ?_, ?_⟩
  · intro c member
    simp only [List.cons_append, List.mem_cons, List.mem_append, List.not_mem_nil,
      or_false] at member
    rcases member with rfl | inner | rfl
    · rfl
    · exact within c inner
    · rfl
  · intro user
    simp only [List.cons_append, List.mem_cons, List.mem_append, List.not_mem_nil,
      or_false] at user
    rcases user with marked | inner | marked
    · cases marked
    · exact free inner
    · cases marked
  · intro special rest
    have inner := hostLength_bracketed special text rest (inside_any special text within) unclosed
    have shape : '[' :: text ++ [']'] ++ rest = '[' :: (text ++ ']' :: rest) := by simp
    have bracket : endsAuthority special '[' = false := by
      cases special with
      | true => rfl
      | false => rfl
    rw [shape]
    simp [hostLength, bracket, inner]
    omega

theorem hostText_address (groups : Net.Groups) :
    HostText ('[' :: Net.Address.compressed groups ++ [']']) := by
  have table : ∀ c ∈ ":0123456789abcdef".toList,
      endsAuthority true c = false ∧ c ≠ ']' ∧ c ≠ '@' :=
    Text.each_of_all ":0123456789abcdef".toList _ (by decide)
  have digits := compressed_chars groups
  apply hostText_bracketed
  · exact fun c member => (table c (digits c member)).1
  · exact fun user => (table '@' (digits '@' user)).2.2 rfl
  · exact fun closed => (table ']' (digits ']' closed)).2.1 rfl

/-- The host that a text says, by the kind of URL it stands in. -/
def Host.readIn (special : Bool) (text : List Char) : Except UrlError Host :=
  if special then Host.parse text else Host.parseOpaque text

theorem splitHost_ok (special : Bool) (b d : List Char) (host : Host)
    (read : splitHost special b = .ok (host, d)) :
    Host.readIn special (b.take (hostLength special false b)) = .ok host ∧
      d = b.drop (hostLength special false b) ∧
      (b.take (hostLength special false b) = [] → special = false ∧ d.head? ≠ some ':') :=
  splitHost_known special b d host read

theorem HostText.splitHost_ahead {text : List Char} (host : HostText text) (special : Bool)
    (rest : List Char) (stop : hostLength special false rest = 0) :
    splitHost special (text ++ rest) = (Host.readIn special text).map fun asked => (asked, rest) := by
  have size := host.counted special rest
  rw [stop, Nat.add_zero] at size
  have named : text.isEmpty = false := by
    simp [host.named]
  unfold splitHost Host.readIn
  dsimp only
  rw [size, List.take_left, List.drop_left, named]
  cases special with
  | true => rfl
  | false =>
      simp only [Bool.false_eq_true, if_false, false_and]
      cases Host.parseOpaque text with
      | error e => rfl
      | ok host => rfl

theorem bracketed_ok (cs : List Char) (host : Host) (read : Host.bracketed cs = .ok host) :
    ∃ inner groups, cs = inner ++ [']'] ∧ V6.parse inner = .ok groups ∧ host = .address (.v6 groups) := by
  unfold Host.bracketed at read
  split at read
  · rename_i closed
    obtain ⟨inner, rfl⟩ := List.getLast?_eq_some_iff.mp closed
    rw [List.dropLast_concat] at read
    cases groups : V6.parse inner with
    | error e =>
        rw [groups] at read
        cases read
    | ok found =>
        rw [groups] at read
        cases read
        exact ⟨inner, found, rfl, groups, rfl⟩
  · cases read

theorem parse_kinds (cs : List Char) (host : Host) (read : Host.parse cs = .ok host) :
    (∃ groups, host = .address (.v6 groups)) ∨
      host.render ≠ [] ∧ ∀ c ∈ host.render, DomainName.InName c := by
  unfold Host.parse at read
  split at read
  · obtain ⟨-, groups, -, -, same⟩ := bracketed_ok _ host read
    exact .inl ⟨groups, same⟩
  · right
    split at read
    · cases read
    · cases read
    · rename_i name named found
      split at read
      · cases octets : V4.parse name with
        | error e =>
            rw [octets] at read
            cases read
        | ok parts =>
            rw [octets] at read
            cases read
            refine ⟨dotted_ne_nil parts (v4_some name parts octets), ?_⟩
            intro c member
            rcases dotted_chars parts c member with rfl | digit
            · exact ⟨by decide, by decide⟩
            · exact inName_digit c digit
      · cases read
        obtain ⟨text, -, ascii⟩ := Option.bind_eq_some_iff.mp found
        exact ⟨fun nothing => named nothing, DomainName.toAscii_inName text name ascii⟩

theorem hostText_of_parse (cs : List Char) (host : Host) (read : Host.parse cs = .ok host) :
    HostText host.render := by
  rcases parse_kinds cs host read with ⟨groups, rfl⟩ | ⟨named, plain⟩
  · exact hostText_address groups
  · exact hostText_plain _ named plain

end AccessGate.Url
