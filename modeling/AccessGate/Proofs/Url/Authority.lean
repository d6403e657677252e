import AccessGate.Proofs.Text
import AccessGate.Url.Parser

/-!
The authority of a URL. It is read from the text in front of the first character that ends it, and
what follows that text has no say in it; the scheme only says which port is not kept.
-/

namespace AccessGate.Url

open Text (digitValue? valueIn)

/-- Who is asked where, with the port as it was written. -/
structure Place where
  who : Credentials
  host : Host
  port : Option Nat

/-- The port behind a colon and what stands behind it. -/
def portBehind (cs : List Char) : Except UrlError (Option Nat × List Char) :=
  let digits := cs.takeWhile Char.isDigit
  let behind := cs.drop digits.length
  let port := valueIn 10 (digits.filterMap digitValue?)
  let ends : Bool := match behind with
    | [] => true
    | c :: _ => endsAuthority true c
  if port ≤ 65535 ∧ ends then .ok (if digits.isEmpty then none else some port, behind)
  else .error .badPort

def portAhead (cs : List Char) : Except UrlError (Option Nat × List Char) :=
  match cs with
  | ':' :: rest => portBehind rest
  | _ => .ok (none, cs)

theorem portAhead_none (cs : List Char) (uncoloned : ∀ rest, cs ≠ ':' :: rest) :
    portAhead cs = .ok (none, cs) := by
  unfold portAhead
  split
  · exact absurd rfl (uncoloned _)
  · rfl

/-- The port that a URL of a scheme keeps. -/
def keptPort (scheme : List Char) (port : Option Nat) : Option Nat :=
  port.filter fun n => defaultPort? scheme != some n

theorem keptPort_written (scheme digits : List Char) (port : Nat) :
    keptPort scheme (if digits.isEmpty then none else some port) =
      if digits.isEmpty ∨ defaultPort? scheme = some port then none else some port := by
  by_cases unwritten : digits.isEmpty
  · simp [unwritten, keptPort]
  · by_cases own : defaultPort? scheme = some port
    · simp [unwritten, own, keptPort]
    · simp [unwritten, own, keptPort]

-- Both read the same digits; only what is kept of them depends on the scheme.
theorem splitPort_eq (scheme cs : List Char) :
    splitPort scheme cs = (portAhead cs).map fun (port, rest) => (keptPort scheme port, rest) := by
  unfold splitPort
  split
  · rename_i rest
    change _ = (portBehind rest).map _
    unfold portBehind
    dsimp only
    rw [← keptPort_written]
    generalize valueIn 10 ((rest.takeWhile Char.isDigit).filterMap digitValue?) = port
    cases rest.drop (rest.takeWhile Char.isDigit).length with
    | nil =>
        by_cases fits : port ≤ 65535
        · simp [fits, Except.map]
        · simp [fits, Except.map]
    | cons c behind =>
        by_cases fits : port ≤ 65535 ∧ endsAuthority true c = true
        · simp [fits, Except.map]
        · simp only [if_neg fits, Except.map]
  · rename_i other
    rw [portAhead_none cs other]
    rfl

def placeAhead (special : Bool) (cs : List Char) : Except UrlError (Place × List Char) := do
  let (who, rest) ← splitCredentials special cs
  let (host, rest) ← splitHost special rest
  let (port, rest) ← portAhead rest
  if host = .domain [] ∧ (who.username ≠ [] ∨ who.password ≠ []) then .error .noHost
  else pure (⟨who, host, port⟩, rest)

theorem bind_ok (first : Except ε α) (next : α → Except ε β) (result : β) :
    first >>= next = .ok result ↔ ∃ value, first = .ok value ∧ next value = .ok result := by
  cases first with
  | error e =>
      constructor
      · intro never
        cases never
      · rintro ⟨value, never, -⟩
        cases never
  | ok value =>
      constructor
      · exact fun same => ⟨value, rfl, same⟩
      · rintro ⟨other, same, rest⟩
        cases same
        exact rest

-- Both ways to read an authority, ahead of a text and all of one, end like this.
theorem place_ok (special : Bool) (start : Except UrlError (Credentials × List Char))
    (place : Place) (e : List Char)
    (read : (do
      let (who, rest) ← start
      let (host, rest) ← splitHost special rest
      let (port, rest) ← portAhead rest
      if host = .domain [] ∧ (who.username ≠ [] ∨ who.password ≠ []) then .error .noHost
      else pure (⟨who, host, port⟩, rest)) = Except.ok (place, e)) :
    ∃ b d, start = .ok (place.who, b) ∧ splitHost special b = .ok (place.host, d) ∧
      portAhead d = .ok (place.port, e) := by
  obtain ⟨⟨who, b⟩, first, rest⟩ := (bind_ok _ _ _).mp read
  obtain ⟨⟨host, d⟩, second, rest⟩ := (bind_ok _ _ _).mp rest
  obtain ⟨⟨port, behind⟩, third, rest⟩ := (bind_ok _ _ _).mp rest
  dsimp only at rest
  split at rest
  · cases rest
  · cases rest
    exact ⟨b, d, first, second, third⟩

/-- The URL with an authority and what stands behind it. -/
def placed (scheme : List Char) (place : Place) (rest : List Char) : Url :=
  withTail ⟨scheme, place.who.username, place.who.password, some place.host,
    keptPort scheme place.port,
    .segments (hostedPath false (isSpecial scheme) (splitPath rest).1), none, none⟩
    (splitPath rest).2

theorem parseHosted_eq (scheme cs : List Char) :
    parseHosted scheme cs =
      (placeAhead (isSpecial scheme) cs).map fun (place, rest) => placed scheme place rest := by
  unfold parseHosted placeAhead
  cases first : splitCredentials (isSpecial scheme) cs with
  | error e => simp only [first]; rfl
  | ok pair =>
      obtain ⟨who, rest⟩ := pair
      cases second : splitHost (isSpecial scheme) rest with
      | error e => simp only [first, second, bind, Except.bind]; rfl
      | ok pair =>
          obtain ⟨host, rest⟩ := pair
          cases third : portAhead rest with
          | error e => simp only [first, second, splitPort_eq, third, bind, Except.bind]; rfl
          | ok pair =>
              obtain ⟨port, rest⟩ := pair
              simp only [first, second, splitPort_eq, third, bind, Except.bind, Except.map]
              by_cases nobody : host = .domain [] ∧ (who.username ≠ [] ∨ who.password ≠ [])
              · simp only [if_pos nobody]
              · simp only [if_neg nobody]
                rfl

theorem parseHosted_ok (scheme cs : List Char) (url : Url) (read : parseHosted scheme cs = .ok url) :
    ∃ place rest, placeAhead (isSpecial scheme) cs = .ok (place, rest) ∧ url = placed scheme place rest := by
  rw [parseHosted_eq] at read
  cases found : placeAhead (isSpecial scheme) cs with
  | error e =>
      rw [found] at read
      cases read
  | ok pair =>
      obtain ⟨place, rest⟩ := pair
      rw [found] at read
      cases read
      exact ⟨place, rest, rfl, rfl⟩

/-! ## The text of an authority -/

/-- A text that no authority ends in. -/
def Inside (special : Bool) (cs : List Char) : Prop := ∀ c ∈ cs, endsAuthority special c = false

def Closes (special : Bool) (rest : List Char) : Prop :=
  ∀ c, rest.head? = some c → endsAuthority special c = true

theorem takeWhile_inside (special : Bool) (a rest : List Char) (inside : Inside special a)
    (closes : Closes special rest) :
    (a ++ rest).takeWhile (!endsAuthority special ·) = a := by
  apply Text.takeWhile_all
  · intro c member
    simp [inside c member]
  · intro c first
    simp [closes c first]

theorem inside_takeWhile (special : Bool) (cs : List Char) :
    Inside special (cs.takeWhile (!endsAuthority special ·)) := by
  intro c member
  simpa using Text.mem_takeWhile _ cs c member

theorem closes_dropWhile (special : Bool) (cs : List Char) :
    Closes special (cs.dropWhile (!endsAuthority special ·)) := by
  intro c first
  simpa using Text.head?_dropWhile _ cs c first

theorem endsAuthority_special (special : Bool) (c : Char) (ends : endsAuthority special c = true) :
    endsAuthority true c = true := by
  cases special with
  | true => exact ends
  | false =>
      simp only [endsAuthority, Bool.false_and, Bool.or_false] at ends
      simp only [endsAuthority, ends, Bool.true_or]

theorem inside_any (special : Bool) (cs : List Char) (inside : Inside true cs) : Inside special cs := by
  intro c member
  cases ends : endsAuthority special c with
  | false => rfl
  | true =>
      have closes := endsAuthority_special special c ends
      rw [inside c member] at closes
      cases closes

theorem ends_of_separator (special : Bool) (c : Char) (separates : Path.isSeparator special c = true) :
    endsAuthority special c = true := by
  simp only [Path.isSeparator, Bool.or_eq_true] at separates
  simp only [endsAuthority, Bool.or_eq_true]
  exact separates.imp_left .inl

theorem dropWhile_separators (special : Bool) (a rest : List Char) (inside : Inside special a)
    (named : a ≠ []) : (a ++ rest).dropWhile (Path.isSeparator special) = a ++ rest := by
  cases a with
  | nil => exact absurd rfl named
  | cons c a =>
      apply List.dropWhile_cons_of_neg
      intro separates
      have ends := ends_of_separator special c separates
      rw [inside c List.mem_cons_self] at ends
      cases ends

def infoIn (last : Bool) (a : List Char) : Except UrlError (Credentials × List Char) :=
  if a.contains '@' then
    let place := (a.reverse.takeWhile (· != '@')).reverse
    let info := a.take (a.length - place.length - 1)
    if info.isEmpty ∧ place.isEmpty ∧ last = false then .error .noHost
    else .ok (credentials info, place)
  else .ok (⟨[], []⟩, a)

theorem splitCredentials_append (special : Bool) (a rest : List Char) (inside : Inside special a)
    (closes : Closes special rest) :
    splitCredentials special (a ++ rest) =
      (infoIn rest.isEmpty a).map fun (who, place) => (who, place ++ rest) := by
  unfold splitCredentials infoIn
  rw [takeWhile_inside special a rest inside closes]
  simp only [List.drop_left]
  by_cases marked : a.contains '@'
  · simp only [if_pos marked]
    split
    · rfl
    · rfl
  · simp only [if_neg marked]
    rfl

theorem hostLength_append (special inside : Bool) (b rest : List Char)
    (closes : Closes special rest) :
    hostLength special inside (b ++ rest) = hostLength special inside b := by
  induction b generalizing inside with
  | nil =>
      cases rest with
      | nil => rfl
      | cons c rest => simp [hostLength, closes c rfl]
  | cons c b ih => simp only [List.cons_append, hostLength, ih]

theorem hostLength_le (special inside : Bool) (b : List Char) :
    hostLength special inside b ≤ b.length := by
  induction b generalizing inside with
  | nil => exact Nat.le_refl _
  | cons c b ih =>
      simp only [hostLength, List.length_cons]
      split
      · exact Nat.zero_le _
      · exact Nat.succ_le_succ (ih _)

-- The colon of a port is the only character inside an authority that a host ends at.
theorem head_drop_hostLength (special inside : Bool) (b : List Char) (c : Char)
    (within : Inside special b)
    (first : (b.drop (hostLength special inside b)).head? = some c) : c = ':' := by
  induction b generalizing inside with
  | nil => cases first
  | cons d b ih =>
      have open_ : endsAuthority special d = false := within d (by simp)
      simp only [hostLength, open_, Bool.false_or] at first
      split at first
      · rename_i colon
        simp only [List.drop_zero, List.head?_cons, Option.some.injEq] at first
        simp only [Bool.and_eq_true, beq_iff_eq] at colon
        exact first ▸ colon.1
      · exact ih _ (fun e member => within e (by simp [member])) first

theorem not_closes_colon (special : Bool) : endsAuthority special ':' = false := by
  cases special <;> decide

-- The host ends within the first text, so only the check for a colon behind it sees the second.
theorem splitHost_append (special : Bool) (b rest : List Char) (closes : Closes special rest) :
    splitHost special (b ++ rest) =
      (splitHost special b).map fun (host, port) => (host, port ++ rest) := by
  have size := hostLength_append special false b rest closes
  have bound := hostLength_le special false b
  unfold splitHost
  dsimp only
  rw [size, List.take_append_of_le_length bound, List.drop_append_of_le_length bound]
  generalize b.take (hostLength special false b) = text
  generalize b.drop (hostLength special false b) = port
  cases special with
  | true =>
      simp only [if_true]
      split
      · rfl
      · cases Host.parse text with
        | error e => rfl
        | ok host => rfl
  | false =>
      simp only [Bool.false_eq_true, if_false]
      cases Host.parseOpaque text with
      | error e => rfl
      | ok host =>
          have same : (port ++ rest).head? = some ':' ↔ port.head? = some ':' := by
            cases port with
            | cons c port => simp
            | nil =>
                cases rest with
                | nil => simp
                | cons c rest =>
                    have ends := closes c rfl
                    simp only [List.nil_append, List.head?_cons, Option.some.injEq, List.head?_nil]
                    constructor
                    · rintro rfl
                      rw [not_closes_colon] at ends
                      cases ends
                    · intro never
                      cases never
          simp only [same]
          split
          · rfl
          · rfl

theorem isDigit_not_ends (special : Bool) (c : Char) (digit : c.isDigit = true) :
    endsAuthority special c = false := by
  cases found : endsAuthority special c with
  | false => rfl
  | true =>
      have ends := endsAuthority_special special c found
      simp only [endsAuthority, endsPath, Bool.true_and, Bool.or_eq_true, beq_iff_eq] at ends
      rcases ends with (rfl | rfl | rfl) | rfl
      · cases digit
      · cases digit
      · cases digit
      · cases digit

theorem portBehind_append (special : Bool) (d rest : List Char) (closes : Closes special rest) :
    portBehind (d ++ rest) = (portBehind d).map fun (port, e) => (port, e ++ rest) := by
  have digits : (d ++ rest).takeWhile Char.isDigit = d.takeWhile Char.isDigit := by
    apply Text.takeWhile_append_stop
    intro c first
    cases digit : c.isDigit with
    | false => rfl
    | true =>
        have ends := closes c first
        rw [isDigit_not_ends special c digit] at ends
        cases ends
  have bound : (d.takeWhile Char.isDigit).length ≤ d.length :=
    (List.takeWhile_prefix _).length_le
  unfold portBehind
  dsimp only
  rw [digits, List.drop_append_of_le_length bound]
  generalize valueIn 10 ((d.takeWhile Char.isDigit).filterMap digitValue?) = port
  cases d.drop (d.takeWhile Char.isDigit).length with
  | cons c e =>
      by_cases fits : port ≤ 65535 ∧ endsAuthority true c = true
      · simp [fits, Except.map]
      · simp only [List.cons_append, if_neg fits, Except.map]
  | nil =>
      cases rest with
      | nil =>
          by_cases fits : port ≤ 65535
          · simp [fits, Except.map]
          · simp [fits, Except.map]
      | cons c rest =>
          have ends := endsAuthority_special special c (closes c rfl)
          by_cases fits : port ≤ 65535
          · simp [fits, ends, Except.map]
          · simp [fits, Except.map]

theorem portAhead_append (special : Bool) (d rest : List Char) (closes : Closes special rest) :
    portAhead (d ++ rest) = (portAhead d).map fun (port, e) => (port, e ++ rest) := by
  unfold portAhead
  rcases d with _ | ⟨c, d⟩
  · rw [List.nil_append]
    split
    · have ends := closes ':' rfl
      rw [not_closes_colon] at ends
      cases ends
    · rfl
  · by_cases colon : c = ':'
    · subst colon
      exact portBehind_append special d rest closes
    · split
      · rename_i same
        cases same
        exact absurd rfl colon
      · split
        · rename_i same
          cases same
          exact absurd rfl colon
        · rfl

def placeIn (special last : Bool) (a : List Char) : Except UrlError (Place × List Char) := do
  let (who, rest) ← infoIn last a
  let (host, rest) ← splitHost special rest
  let (port, rest) ← portAhead rest
  if host = .domain [] ∧ (who.username ≠ [] ∨ who.password ≠ []) then .error .noHost
  else pure (⟨who, host, port⟩, rest)

theorem placeAhead_append (special : Bool) (a rest : List Char) (inside : Inside special a)
    (closes : Closes special rest) :
    placeAhead special (a ++ rest) =
      (placeIn special rest.isEmpty a).map fun (place, e) => (place, e ++ rest) := by
  unfold placeAhead placeIn
  rw [splitCredentials_append special a rest inside closes]
  cases infoIn rest.isEmpty a with
  | error e => rfl
  | ok pair =>
      obtain ⟨who, b⟩ := pair
      simp only [Except.map, bind, Except.bind]
      rw [splitHost_append special b rest closes]
      cases splitHost special b with
      | error e => rfl
      | ok pair =>
          obtain ⟨host, d⟩ := pair
          simp only [Except.map]
          rw [portAhead_append special d rest closes]
          cases portAhead d with
          | error e => rfl
          | ok pair =>
              obtain ⟨port, e⟩ := pair
              simp only [Except.map]
              by_cases nobody : host = .domain [] ∧ (who.username ≠ [] ∨ who.password ≠ [])
              · simp only [if_pos nobody]
              · simp only [if_neg nobody]
                rfl

theorem mem_infoIn (last : Bool) (a b : List Char) (who : Credentials)
    (read : infoIn last a = .ok (who, b)) (c : Char) (member : c ∈ b) : c ∈ a := by
  unfold infoIn at read
  split at read
  · dsimp only at read
    split at read
    · cases read
    · cases read
      rw [List.mem_reverse] at member
      exact List.mem_reverse.mp (List.takeWhile_subset _ member)
  · cases read
    exact member

theorem splitHost_known (special : Bool) (b d : List Char) (host : Host)
    (read : splitHost special b = .ok (host, d)) :
    (if special then Host.parse (b.take (hostLength special false b))
      else Host.parseOpaque (b.take (hostLength special false b))) = .ok host ∧
      d = b.drop (hostLength special false b) ∧
      (b.take (hostLength special false b) = [] → special = false ∧ d.head? ≠ some ':') := by
  unfold splitHost at read
  dsimp only at read
  cases special with
  | true =>
      rw [if_pos rfl] at read ⊢
      split at read
      · cases read
      · rename_i named
        cases parsed : Host.parse (b.take (hostLength true false b)) with
        | error e =>
            rw [parsed] at read
            cases read
        | ok found =>
            rw [parsed] at read
            cases read
            exact ⟨rfl, rfl, fun unnamed => absurd (List.isEmpty_iff.mpr unnamed) named⟩
  | false =>
      rw [if_neg Bool.false_ne_true] at read ⊢
      split at read
      · cases read
      · rename_i found parsed
        split at read
        · cases read
        · rename_i apart
          cases read
          exact ⟨parsed, rfl, fun unnamed => ⟨rfl, fun coloned => apart ⟨List.isEmpty_iff.mpr unnamed, coloned⟩⟩⟩

theorem splitHost_rest (special : Bool) (b d : List Char) (host : Host)
    (read : splitHost special b = .ok (host, d)) : d = b.drop (hostLength special false b) :=
  (splitHost_known special b d host read).2.1

-- A port that was read stops at the end or at what ends an authority.
theorem portBehind_ok (d e : List Char) (port : Option Nat)
    (read : portBehind d = .ok (port, e)) :
    e = d.drop (d.takeWhile Char.isDigit).length ∧ Closes true e ∧
      ∀ n, port = some n → n ≤ 65535 := by
  unfold portBehind at read
  dsimp only at read
  generalize d.drop (d.takeWhile Char.isDigit).length = behind at read ⊢
  generalize valueIn 10 ((d.takeWhile Char.isDigit).filterMap digitValue?) = value at read
  cases behind with
  | nil =>
      by_cases fits : value ≤ 65535
      · simp only [fits, and_self, if_true, Except.ok.injEq, Prod.mk.injEq] at read
        obtain ⟨rfl, rfl⟩ := read
        refine ⟨rfl, (fun c first => by cases first), ?_⟩
        intro n written
        split at written
        · cases written
        · cases written
          exact fits
      · simp only [fits, false_and, if_false] at read
        cases read
  | cons f behind =>
      by_cases fits : value ≤ 65535 ∧ endsAuthority true f = true
      · simp only [if_pos fits, Except.ok.injEq, Prod.mk.injEq] at read
        obtain ⟨rfl, rfl⟩ := read
        refine ⟨rfl, ?_, ?_⟩
        · intro c first
          cases first
          exact fits.2
        · intro n written
          split at written
          · cases written
          · cases written
            exact fits.1
      · simp only [if_neg fits] at read
        cases read

theorem portBehind_natText (port : Nat) (fits : port ≤ 65535) :
    portBehind (Text.natText port) = .ok (some port, []) := by
  have taken : (Text.natText port).takeWhile Char.isDigit = Text.natText port := by
    have whole := Text.takeWhile_all Char.isDigit _ [] (Text.natText_digits port)
      (fun c first => by cases first)
    rwa [List.append_nil] at whole
  have some_ : (Text.natText port).isEmpty = false := by
    simp [Text.natText_ne_nil]
  unfold portBehind
  simp only [taken, List.drop_length, Text.valueIn_natText, fits, some_, and_self, if_true,
    Bool.false_eq_true, if_false]

theorem portBehind_open (port : Nat) (c : Char) (rest : List Char) (undigited : c.isDigit = false)
    (open_ : endsAuthority true c = false) :
    portBehind (Text.natText port ++ c :: rest) = .error .badPort := by
  have taken : (Text.natText port ++ c :: rest).takeWhile Char.isDigit = Text.natText port := by
    apply Text.takeWhile_all _ _ _ (Text.natText_digits port)
    intro d first
    cases first
    exact undigited
  unfold portBehind
  simp only [taken, List.drop_left, open_, Bool.false_eq_true, and_false, if_false]

theorem portAhead_closed (d e : List Char) (port : Option Nat) (inside : Inside true d)
    (first : ∀ c, d.head? = some c → c = ':') (read : portAhead d = .ok (port, e)) : e = [] := by
  rcases d with _ | ⟨c, d⟩
  · cases read
    rfl
  · cases first c rfl
    obtain ⟨dropped, closes, -⟩ := portBehind_ok d e port read
    cases e with
    | nil => rfl
    | cons f e =>
        have member : f ∈ d := by
          apply List.mem_of_mem_drop
          rw [← dropped]
          exact List.mem_cons_self
        have ends := closes f rfl
        rw [inside f (List.mem_cons_of_mem _ member)] at ends
        cases ends

-- Without a backslash in the text nothing of it is left over.
theorem splitHost_closed (special : Bool) (b d e : List Char) (host : Host) (port : Option Nat)
    (inside : Inside true b) (named : splitHost special b = .ok (host, d))
    (read : portAhead d = .ok (port, e)) : e = [] := by
  have dropped := splitHost_rest special b d host named
  apply portAhead_closed d e port _ _ read
  · intro c member
    rw [dropped] at member
    exact inside c (List.mem_of_mem_drop member)
  · intro c head
    rw [dropped] at head
    exact head_drop_hostLength special false b c (inside_any special b inside) head

theorem placeIn_closed (special last : Bool) (a e : List Char) (place : Place) (inside : Inside true a)
    (read : placeIn special last a = .ok (place, e)) : e = [] := by
  obtain ⟨b, d, first, second, third⟩ := place_ok special (infoIn last a) place e read
  exact splitHost_closed special b d e place.host place.port
    (fun c member => inside c (mem_infoIn last a b place.who first c member)) second third

theorem placeAhead_special (cs rest : List Char) (place : Place)
    (read : placeAhead true cs = .ok (place, rest)) :
    rest = cs.dropWhile (!endsAuthority true ·) := by
  have inside := inside_takeWhile true cs
  have closes := closes_dropWhile true cs
  have split := placeAhead_append true _ _ inside closes
  rw [List.takeWhile_append_dropWhile, read] at split
  cases within : placeIn true (cs.dropWhile (!endsAuthority true ·)).isEmpty
      (cs.takeWhile (!endsAuthority true ·)) with
  | error e =>
      rw [within] at split
      cases split
  | ok pair =>
      obtain ⟨other, e⟩ := pair
      rw [within] at split
      simp only [Except.map, Except.ok.injEq, Prod.mk.injEq] at split
      rw [split.2, placeIn_closed true _ _ e other inside within]
      rfl

end AccessGate.Url
