import AccessGate.Proofs.Http.HostField
import AccessGate.Proofs.Url.Address
import AccessGate.Proofs.Url.Marks

/-!
Authorities as they stand in a text. Where a text has one authority for a listener and for a reader of
URLs, the listener's normal form of it tells the host and the port that the reader found, up to the case
of letters.
-/

namespace AccessGate

open Text (lower)

namespace Http.Authority

/-! ## What a scan lets through -/

theorem scan_append (s : Scan) (a b : List Char) : scan s (a ++ b) = (scan s a).bind fun s => scan s b := by
  induction a generalizing s with
  | nil => rfl
  | cons c a ih =>
      simp only [List.cons_append, scan]
      cases s.step c with
      | error e => rfl
      | ok next => exact ih next

theorem scan_behind (s last : Scan) (a b : List Char) (scanned : scan s (a ++ b) = .ok last) :
    ∃ between, scan s a = .ok between ∧ scan between b = .ok last := by
  rw [scan_append] at scanned
  exact (Url.bind_ok _ _ _).mp scanned

theorem scan_user (s last : Scan) (a : List Char) (scanned : scan s (a ++ ['@']) = .ok last) :
    last.bareUser = true := by
  obtain ⟨between, -, behind⟩ := scan_behind s last a ['@'] scanned
  cases behind
  rfl

theorem scan_colons (s last : Scan) (cs : List Char) (scanned : scan s cs = .ok last)
    (plain : ∀ c ∈ cs, c ∉ "@[]".toList) : last.colons = s.colons + cs.count ':' := by
  induction cs generalizing s with
  | nil =>
      cases scanned
      rfl
  | cons c cs ih =>
      obtain ⟨next, stepped, rest⟩ := (Url.bind_ok _ _ _).mp scanned
      have counted : next.colons = s.colons + if c = ':' then 1 else 0 := by
        have apart := plain c List.mem_cons_self
        unfold Scan.step at stepped
        split at stepped
        · dsimp only at stepped
          split at stepped
          · cases stepped
          · cases stepped
            rfl
        · exact absurd (by decide) apart
        · exact absurd (by decide) apart
        · exact absurd (by decide) apart
        · cases stepped
          rfl
        · rename_i other _ _ _ _
          dsimp only at stepped
          split at stepped
          · cases stepped
            rw [if_neg other]
            rfl
          · cases stepped
      rw [ih next rest fun d member => plain d (List.mem_cons_of_mem _ member), counted, List.count_cons]
      simp only [beq_iff_eq]
      omega

/-- An authority that a listener accepts. -/
structure Accepted (name : List Char) : Prop where
  scanned : ∃ last, scan .start name = .ok last ∧ last.isSound = true
  named : name ≠ []

theorem ahead_accepted (cs name rest : List Char) (read : ahead cs = .ok (name, rest))
    (named : name ≠ []) : Accepted name := by
  refine ⟨?_, named⟩
  unfold ahead at read
  dsimp only at read
  split at read
  · cases read
  · rename_i last scanned
    split at read
    · rename_i sound
      cases read
      exact ⟨last, scanned, sound⟩
    · cases read

theorem Accepted.unmarked {name : List Char} (accepted : Accepted name)
    (plain : ∀ c ∈ name, c ∉ "@[]".toList) : '%' ∉ name ∧ name.count ':' ≤ 1 := by
  obtain ⟨⟨last, scanned, sound⟩, -⟩ := accepted
  simp only [Scan.isSound, Bool.and_eq_true, decide_eq_true_eq, Bool.not_eq_true'] at sound
  constructor
  · intro marked
    have held := scan_percent _ last name scanned plain (.inr marked)
    rw [sound.2] at held
    cases held
  · have counted := scan_colons _ last name scanned plain
    have few := sound.1.1.2
    rw [counted] at few
    exact Nat.le_of_add_left_le few

/-! ## The place behind the user information -/

theorem afterLast_parts (mark : Char) (cs : List Char) :
    ∃ front, cs = front ++ afterLast mark cs ∧ Text.Behind mark front (afterLast mark cs) := by
  refine ⟨(cs.reverse.dropWhile (· != mark)).reverse, ?_, ?_, ?_⟩
  · rw [afterLast, ← List.reverse_append, List.takeWhile_append_dropWhile, List.reverse_reverse]
  · intro member
    rw [afterLast, List.mem_reverse] at member
    simpa using Text.mem_takeWhile _ _ mark member
  · cases dropped : cs.reverse.dropWhile (· != mark) with
    | nil => exact .inl rfl
    | cons c rest =>
        right
        have stop := Text.head?_dropWhile (· != mark) cs.reverse c (by rw [dropped]; rfl)
        rw [bne_eq_false_iff_eq] at stop
        simp [stop]

theorem port_afterLast (name : List Char) : port? name = port? (afterLast '@' name) := by
  obtain ⟨front, parts, behind⟩ := afterLast_parts '@' name
  generalize afterLast '@' name = place at parts behind
  subst parts
  by_cases coloned : ':' ∈ place
  · obtain ⟨ahead_, whole, ends⟩ := afterLast_parts ':' place
    have some_ : ahead_ ≠ [] := by
      rintro rfl
      rw [List.nil_append] at whole
      rw [whole] at coloned
      exact ends.unmarked coloned
    have same : afterLast ':' (front ++ place) = afterLast ':' place := by
      have longer : Text.Behind ':' (front ++ ahead_) (afterLast ':' place) := by
        refine ⟨ends.unmarked, .inr ?_⟩
        rw [List.getLast?_append, ends.ends.resolve_left some_]
        rfl
      have found := afterLast_behind ':' _ _ longer
      rwa [List.append_assoc, ← whole] at found
    unfold port?
    rw [if_pos (by simp [coloned]), if_pos (by simp [coloned]), same]
  · have none_ : port? place = none := if_neg (by simpa using coloned)
    rw [none_]
    unfold port?
    split
    · rename_i inFront
      have marked : ':' ∈ front := by simpa [coloned] using inFront
      have user : front.getLast? = some '@' := behind.ends.resolve_left (List.ne_nil_of_mem marked)
      obtain ⟨info, rfl⟩ := List.getLast?_eq_some_iff.mp user
      apply unsigned_other 65535 _ '@' _ (by decide) (by decide)
      -- the text behind the last colon reaches back over the sign of the user
      obtain ⟨ahead_, whole, ends⟩ := afterLast_parts ':' (info ++ ['@'] ++ place)
      rw [List.append_assoc, List.singleton_append] at whole ends ⊢
      rcases List.append_eq_append_iff.mp whole with ⟨more, front_, same⟩ | ⟨more, -, same⟩
      · cases more with
        | nil =>
            rw [List.nil_append] at same
            rw [← same]
            exact List.mem_cons_self
        | cons mark more =>
            obtain ⟨rfl, rest⟩ := List.cons.inj same
            exfalso
            have last := ends.ends.resolve_left (by simp [front_])
            rw [front_, List.getLast?_append, List.getLast?_cons] at last
            cases more with
            | nil => cases last
            | cons c more =>
                rw [List.getLast?_cons] at last
                apply coloned
                rw [rest]
                apply List.mem_append_left
                exact List.mem_of_getLast? (by rw [List.getLast?_cons]; exact last)
      · rw [same]
        simp
    · rfl

theorem normal_afterLast (name : List Char) : normal name = normal (afterLast '@' name) := by
  obtain ⟨front, -, behind⟩ := afterLast_parts '@' name
  have same : host name = host (afterLast '@' name) := by
    unfold host
    rw [afterLast_unmarked '@' (afterLast '@' name) behind.unmarked]
  unfold normal
  rw [same, port_afterLast]

theorem portSuffix_of_ahead (d e : List Char) (port : Option Nat) (inside : Url.Inside true d)
    (first : ∀ c, d.head? = some c → c = ':') (read : Url.portAhead d = .ok (port, e)) :
    PortSuffix d port := by
  have whole := Url.portAhead_closed d e port inside first read
  subst whole
  cases d with
  | nil =>
      cases read
      exact .absent
  | cons c digits =>
      cases first c rfl
      change Url.portBehind digits = _ at read
      have rest := (Url.portBehind_ok digits [] port read).1
      have all : digits.takeWhile Char.isDigit = digits := by
        have parts := List.takeWhile_append_dropWhile (p := Char.isDigit) (l := digits)
        rwa [← Text.drop_takeWhile, ← rest, List.append_nil] at parts
      simp only [Url.portBehind, all, List.drop_length] at read
      split at read
      · rename_i fits
        cases digits with
        | nil =>
            cases read
            exact .unwritten
        | cons digit digits =>
            cases read
            refine .written (digit :: digits) (by simp) (fun c member => ?_) fits.1
            rw [← all] at member
            exact Text.mem_takeWhile _ _ c member
      · cases read

theorem unmarked_of_opaque (text : List Char) (host : Url.Host)
    (read : Url.Host.parseOpaque text = .ok host) (unbracketed : text.head? ≠ some '[') :
    ∀ c ∈ text, c ∉ ":@[]".toList := by
  have table : ∀ c ∈ ":@[]".toList, Url.Host.isForbidden c = true :=
    Text.each_of_all ":@[]".toList _ (by decide)
  unfold Url.Host.parseOpaque at read
  split at read
  · exact absurd rfl unbracketed
  · split at read
    · cases read
    · rename_i free
      intro c member marked
      exact free (List.any_eq_true.mpr ⟨c, member, table c marked⟩)

theorem unmarked_of_read (special : Bool) (text : List Char) (host : Url.Host)
    (read : Url.Host.readIn special text = .ok host) (unbracketed : text.head? ≠ some '[') :
    ∀ c ∈ text, c ∉ ":@[]".toList := by
  cases special with
  | false => exact unmarked_of_opaque text host read unbracketed
  | true => exact Url.Host.parse_unmarked text host read unbracketed

theorem isHost_of_read (special : Bool) (text : List Char) (host : Url.Host) (named : text ≠ [])
    (read : Url.Host.readIn special text = .ok host) : IsHost text := by
  by_cases bracket : text.head? = some '['
  · cases text with
    | nil => cases bracket
    | cons c rest =>
        cases bracket
        have bracketed : Url.Host.bracketed rest = .ok host := by
          cases special with
          | true => exact read
          | false => exact read
        obtain ⟨inner, groups, rfl, address, -⟩ := Url.bracketed_ok rest host bracketed
        exact .bracketed inner (Url.V6.parse_unmarked inner groups address)
  · exact .name text named (unmarked_of_read special text host read bracket)

/-- The parts of a place that a reader of URLs found in an accepted authority. -/
structure PlaceParts (special : Bool) (text suffix : List Char) (host : Url.Host) (port : Option Nat) :
    Prop where
  formed : IsHost text
  written : PortSuffix suffix port
  within : text.all isWithin = true
  read : Url.Host.readIn special text = .ok host
  unescaped : text.head? ≠ some '[' → '%' ∉ text

theorem place_parts (special : Bool) (name d e : List Char) (host : Url.Host) (port : Option Nat)
    (accepted : Accepted name) (within : name.all isWithin = true)
    (named : Url.splitHost special (afterLast '@' name) = .ok (host, d))
    (ported : Url.portAhead d = .ok (port, e)) :
    ∃ text suffix, afterLast '@' name = text ++ suffix ∧ PlaceParts special text suffix host port := by
  obtain ⟨⟨last, scanned, sound⟩, some_⟩ := accepted
  obtain ⟨front, parts, behind⟩ := afterLast_parts '@' name
  have all : ∀ c ∈ afterLast '@' name, isWithin c = true :=
    fun c member => List.all_eq_true.mp within c (mem_afterLast '@' name c member)
  generalize afterLast '@' name = place at parts behind all named
  subst parts
  have inside : Url.Inside true place := fun c member => not_ends_of_within c (all c member)
  obtain ⟨read, rest, unnamed⟩ := Url.splitHost_ok special place d host named
  have coloned : ∀ c, d.head? = some c → c = ':' := by
    intro c first
    rw [rest] at first
    exact Url.head_drop_hostLength special false place c (Url.inside_any special place inside) first
  have cut := List.take_append_drop (Url.hostLength special false place) place
  rw [← rest] at cut
  have whole : place ≠ [] := by
    rintro rfl
    have user := behind.ends.resolve_left (by simpa using some_)
    obtain ⟨info, rfl⟩ := List.getLast?_eq_some_iff.mp user
    rw [List.append_nil] at scanned
    simp [Scan.isSound, scan_user _ last info scanned] at sound
  have unmarked := unmarked_of_read special _ host read
  generalize place.take (Url.hostLength special false place) = text at read unnamed cut unmarked
  have filled : text ≠ [] := by
    rintro rfl
    obtain ⟨-, other⟩ := unnamed rfl
    cases d with
    | nil => exact whole cut.symm
    | cons c d => exact other (congrArg some (coloned c rfl))
  have written := portSuffix_of_ahead d e port (fun c member => inside c (by
    rw [← cut]
    exact List.mem_append_right _ member)) coloned ported
  have textWithin : text.all isWithin = true := List.all_eq_true.mpr fun c member => all c (by
    rw [← cut]
    exact List.mem_append_left _ member)
  refine ⟨text, d, cut.symm, isHost_of_read special text host filled read, written, textWithin, read, ?_⟩
  · intro unbracketed escaped
    obtain ⟨between, -, later⟩ := scan_behind _ last front place scanned
    have held := scan_percent between last place later (fun c member => ?_) (.inr (by
      rw [← cut]
      exact List.mem_append_left _ escaped))
    · simp [Scan.isSound, held] at sound
    · rw [← cut] at member
      rcases List.mem_append.mp member with first | second
      · exact fun marked => unmarked unbracketed c first (List.mem_cons_of_mem _ marked)
      · exact unmarked_of_port c (written.chars c second)

/-! ## What the normal form tells -/

theorem toLower_digit (c : Char) (digit : c.isDigit = true) : c.toLower = c := by
  rcases Text.toLower_letter c with same | ⟨upper, -⟩
  · exact same
  · unfold Char.isDigit at digit
    unfold Char.isUpper at upper
    simp only [Bool.and_eq_true, Bool.decide_and, decide_eq_true_eq, UInt32.le_iff_toNat_le] at digit upper
    simp at digit upper
    omega

theorem lower_address (address : Net.Address) :
    lower (Url.Host.address address).render = (Url.Host.address address).render := by
  have same : ∀ c ∈ (Url.Host.address address).render, c.toLower = c := by
    intro c member
    cases address with
    | v4 octets =>
        rcases Url.dotted_chars octets c member with rfl | digit
        · rfl
        · exact toLower_digit c digit
    | v6 groups =>
        have table : ∀ c ∈ ":0123456789abcdef".toList, c.toLower = c :=
          Text.each_of_all ":0123456789abcdef".toList _ (by decide)
        simp only [Url.Host.render, List.cons_append, List.mem_cons, List.mem_append, List.not_mem_nil,
          or_false] at member
        rcases member with rfl | inner | rfl
        · rfl
        · exact table c (Url.compressed_chars groups c inner)
        · rfl
  rw [lower, List.map_congr_left same, List.map_id']

theorem ascii_of_within (c : Char) (within : isWithin c = true) : 0x20 < c.toNat ∧ c.toNat < 0x7F := by
  simp only [isWithin, isTargetChar, Bool.and_eq_true, Bool.or_eq_true, beq_iff_eq] at within
  rcases within.1 with (known | listed) | rfl
  · have range := Text.alphanum_range c known
    omega
  · exact Text.each_of_all "!#$&'()*+,-./:;=?@[]_~".toList (fun c => 0x20 < c.toNat ∧ c.toNat < 0x7F)
      (by decide) c (List.contains_iff_mem.mp listed)
  · decide

theorem encode_within (text : List Char) (within : text.all isWithin = true) :
    Percent.encode Url.Host.isControl text = text := by
  apply Percent.encode_plain
  intro c member
  obtain ⟨high, low⟩ := ascii_of_within c (List.all_eq_true.mp within c member)
  refine ⟨by omega, ?_⟩
  simp only [Url.Host.isControl, Bool.or_eq_false_iff, decide_eq_false_iff_not, beq_eq_false_iff_ne]
  omega

namespace PlaceParts

variable {special : Bool} {text suffix : List Char} {host : Url.Host} {port : Option Nat}

theorem lowered (parts : PlaceParts special text suffix host port) : (lower text).all isWithin = true :=
  Text.lower_all isWithin isWithin_of_letter _ parts.within

theorem normal_eq (parts : PlaceParts special text suffix host port) :
    normal (text ++ suffix) = lower text ++ Url.Hosted.portText port :=
  normal_parts parts.formed parts.written

theorem asked_normal (parts : PlaceParts special text suffix host port) :
    Url.asked special (normal (text ++ suffix)) =
      (Url.Host.readIn special (lower text)).map fun host => (host, port) := by
  obtain ⟨stop, ported⟩ := parts.written.again.ahead
  rw [parts.normal_eq]
  exact (parts.formed.lower.hostText parts.lowered).asked_append special _ port (stop special) ported

theorem plain_normal (parts : PlaceParts special text suffix host port) :
    Url.Plain special (normal (text ++ suffix)) := by
  have hostText := parts.formed.lower.hostText parts.lowered
  obtain ⟨portInside, portFree⟩ := Url.Hosted.portText_chars port
  rw [parts.normal_eq]
  refine ⟨?_, ?_, ?_, fun _ => by simp [hostText.named]⟩
  · intro c member
    rcases List.mem_append.mp member with first | second
    · exact hostText.inside c first
    · exact portInside c second
  · exact List.not_mem_append hostText.no_user portFree
  · rw [List.all_append, Bool.and_eq_true]
    refine ⟨solid_of_within _ parts.lowered, List.all_eq_true.mpr ?_⟩
    intro c member
    rcases parts.written.again.chars c member with rfl | digit
    · decide
    · exact isSolid_of_within c (isWithin_of_digit c digit)

theorem read_lower_special (parts : PlaceParts true text suffix host port) :
    Url.Host.readIn true (lower text) = .ok host := by
  have read : Url.Host.parse text = .ok host := parts.read
  change Url.Host.parse (lower text) = .ok host
  by_cases bracket : text.head? = some '['
  · cases text with
    | nil => cases bracket
    | cons c text =>
        cases bracket
        exact (Url.Host.bracketed_lower text).trans read
  · rw [Url.Host.parse_lower text (parts.unescaped bracket), read]

theorem read_lower_opaque (parts : PlaceParts false text suffix host port) :
    Url.Host.readIn false (lower text) = .ok host ↔ lower host.render = host.render := by
  have read : Url.Host.parseOpaque text = .ok host := parts.read
  change Url.Host.parseOpaque (lower text) = .ok host ↔ _
  by_cases bracket : text.head? = some '['
  · cases text with
    | nil => cases bracket
    | cons c text =>
        cases bracket
        have same : Url.Host.parseOpaque (lower ('[' :: text)) = .ok host :=
          (Url.Host.bracketed_lower text).trans read
        obtain ⟨-, groups, -, -, rfl⟩ := Url.bracketed_ok text host read
        exact iff_of_true same (lower_address (.v6 groups))
  · have plain : ∀ cs : List Char, cs.head? ≠ some '[' → cs.all isWithin = true →
        cs.any Url.Host.isForbidden = false → Url.Host.parseOpaque cs = .ok (.domain cs) := by
      intro cs unbracketed within free
      unfold Url.Host.parseOpaque
      split
      · exact absurd rfl unbracketed
      · rw [free, if_neg Bool.false_ne_true, encode_within cs within]
    have free : text.any Url.Host.isForbidden = false := by
      unfold Url.Host.parseOpaque at read
      split at read
      · exact absurd rfl bracket
      · split at read
        · cases read
        · rename_i unforbidden
          exact Bool.eq_false_iff.mpr unforbidden
    rw [plain text bracket parts.within free] at read
    cases read
    rw [plain (lower text) ?_ parts.lowered ?_]
    · simp [Url.Host.render]
    · exact fun opened => bracket ((Text.head?_lower_iff '[' text (by decide)).mp opened)
    · rw [← free, lower, List.any_map]
      exact List.any_congr rfl fun c => Text.toLower_same Url.Host.isForbidden (by decide) c

theorem read_lower_iff (parts : PlaceParts special text suffix host port) :
    Url.Host.readIn special (lower text) = .ok host ↔
      special = true ∨ lower host.render = host.render := by
  cases special with
  | true => exact iff_of_true parts.read_lower_special (.inl rfl)
  | false => simpa using parts.read_lower_opaque

end PlaceParts

end Http.Authority

end AccessGate
