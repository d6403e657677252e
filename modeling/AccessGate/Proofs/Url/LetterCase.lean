import AccessGate.Http.Method
import AccessGate.Proofs.Percent
import AccessGate.Url.Host

/-!
The case of letters. Hosts are read in the same way whatever case their letters are in, and tokens stay
tokens.
-/

namespace AccessGate

namespace Text

theorem of_ascii (p : Char → Prop) (table : ∀ n : Fin 128, p (Char.ofNat n)) (c : Char)
    (ascii : c.toNat < 128) : p c := by
  have found := table ⟨c.toNat, ascii⟩
  rwa [Char.ofNat_toNat] at found

theorem uncased (c : Char) (beyond : ¬ c.toNat < 128) : c.toLower = c ∧ c.toUpper = c := by
  have high : 128 ≤ c.val.toNat := Nat.le_of_not_lt beyond
  constructor
  · unfold Char.toLower
    rw [dif_neg]
    rintro ⟨-, small⟩
    have bound : c.val.toNat ≤ 90 := UInt32.le_iff_toNat_le.mp small
    omega
  · unfold Char.toUpper
    rw [dif_neg]
    rintro ⟨-, small⟩
    have bound : c.val.toNat ≤ 122 := UInt32.le_iff_toNat_le.mp small
    omega

theorem toLower_same {β : Type} [DecidableEq β] (f : Char → β)
    (table : ∀ n : Fin 128, f (Char.ofNat n).toLower = f (Char.ofNat n)) (c : Char) :
    f c.toLower = f c := by
  by_cases ascii : c.toNat < 128
  · exact of_ascii (fun c => f c.toLower = f c) table c ascii
  · rw [(uncased c ascii).1]

theorem toUpper_same {β : Type} [DecidableEq β] (f : Char → β)
    (table : ∀ n : Fin 128, f (Char.ofNat n).toUpper = f (Char.ofNat n)) (c : Char) :
    f c.toUpper = f c := by
  by_cases ascii : c.toNat < 128
  · exact of_ascii (fun c => f c.toUpper = f c) table c ascii
  · rw [(uncased c ascii).2]

theorem ascii_of_letter (c : Char) (letter : c.isAlpha = true) : c.toNat < 128 := by
  have range := Text.alphanum_range c (Text.alphanum_of_alpha c letter)
  omega

theorem undigited_of_letter (c : Char) (letter : c.isAlpha = true) : c.isDigit = false := by
  have table : ∀ n : Fin 128, (Char.ofNat n).isAlpha = true → (Char.ofNat n).isDigit = false := by decide
  exact of_ascii (fun c => c.isAlpha = true → c.isDigit = false) table c (ascii_of_letter c letter) letter

theorem hexValue_toLower (c : Char) : hexValue? c.toLower = hexValue? c :=
  toLower_same hexValue? (by decide) c

theorem digitValue_toLower (c : Char) : digitValue? c.toLower = digitValue? c :=
  toLower_same digitValue? (by decide) c

theorem toLower_toLower (c : Char) : c.toLower.toLower = c.toLower :=
  toLower_same Char.toLower (by decide) c

theorem toLower_toUpper (c : Char) : c.toUpper.toLower = c.toLower :=
  toUpper_same Char.toLower (by decide) c

theorem toLower_eq_iff (mark c : Char)
    (signed : ∀ n : Fin 128, (Char.ofNat n).toLower = mark ↔ Char.ofNat n = mark) :
    c.toLower = mark ↔ c = mark := by
  by_cases ascii : c.toNat < 128
  · exact of_ascii (fun c => c.toLower = mark ↔ c = mark) signed c ascii
  · rw [(uncased c ascii).1]

theorem head?_lower_iff (mark : Char) (cs : List Char)
    (signed : ∀ n : Fin 128, (Char.ofNat n).toLower = mark ↔ Char.ofNat n = mark) :
    (lower cs).head? = some mark ↔ cs.head? = some mark := by
  cases cs with
  | nil => simp [lower]
  | cons c cs =>
      simp only [lower, List.map_cons, List.head?_cons, Option.some.injEq]
      exact toLower_eq_iff mark c signed

theorem lower_upper (cs : List Char) : lower (upper cs) = lower cs := by
  rw [lower, upper, List.map_map]
  exact List.map_congr_left fun c _ => toLower_toUpper c

theorem pieces_lower (mark : Char) (cs : List Char)
    (signed : ∀ n : Fin 128, (Char.ofNat n).toLower = mark ↔ Char.ofNat n = mark) :
    pieces mark (lower cs) = (pieces mark cs).map lower := by
  induction cs with
  | nil => rfl
  | cons c cs ih =>
      have same := toLower_eq_iff mark c signed
      change pieces mark (c.toLower :: lower cs) = _
      by_cases marked : c = mark
      · rw [pieces, pieces, if_pos (same.mpr marked), if_pos marked, ih]
        rfl
      · rw [pieces, pieces, if_neg fun low => marked (same.mp low), if_neg marked, ih]
        cases pieces mark cs with
        | nil => rfl
        | cons first others => rfl

end Text

namespace Http

open Text

theorem isTokenChar_toLower (c : Char) : isTokenChar c.toLower = isTokenChar c :=
  toLower_same isTokenChar (by decide +kernel) c

theorem isTokenChar_toUpper (c : Char) : isTokenChar c.toUpper = isTokenChar c :=
  toUpper_same isTokenChar (by decide +kernel) c

theorem isToken_lower (cs : List Char) : isToken (lower cs) = isToken cs := by
  simp [isToken, lower, isTokenChar_toLower, Function.comp_def]

theorem isToken_upper (cs : List Char) : isToken (upper cs) = isToken cs := by
  simp [isToken, upper, isTokenChar_toUpper, Function.comp_def]

theorem Method.ofAnyCase_alike (name : String) (method : Method)
    (token : isToken method.name.toList = true)
    (alike : lower name.toList = lower method.name.toList) :
    ∃ meant, Method.ofAnyCase? name = some meant ∧
      lower meant.name.toList = lower method.name.toList := by
  have valid : isToken (upper name.toList) = true := by
    rw [isToken_upper, ← isToken_lower, alike, isToken_lower, token]
  refine ⟨⟨String.ofList (upper name.toList)⟩, ?_, ?_⟩
  · simp only [Method.ofAnyCase?, Method.ofText?, String.toList_ofList, valid, if_true]
  · rw [String.toList_ofList, lower_upper, alike]

end Http

namespace Url

open Text

namespace V6

theorem octet_lower (cs : List Char) : octet? (lower cs) = octet? cs := by
  have values : (lower cs).mapM digitValue? = cs.mapM digitValue? := by
    rw [lower, List.mapM_map]
    exact congrArg (fun f => cs.mapM f) (funext digitValue_toLower)
  have read : natural? (lower cs) = natural? cs := by
    unfold natural?
    rw [values]
    simp [lower]
  have first : (lower cs).head? = some '0' ↔ cs.head? = some '0' :=
    head?_lower_iff '0' cs (by decide)
  have size : (lower cs).length = cs.length := List.length_map _
  unfold octet?
  rw [read, size]
  cases natural? cs with
  | none => rfl
  | some n => simp only [ne_eq, first]

theorem octets_lower (cs : List Char) : octets? (lower cs) = octets? cs := by
  unfold octets?
  rw [pieces_lower '.' cs (by decide), List.mapM_map]
  have each : octet? ∘ lower = octet? := funext octet_lower
  rw [each]

theorem digits_lower (cs : List Char) :
    ((lower cs).take 4).takeWhile (fun c => (hexValue? c).isSome) =
        lower ((cs.take 4).takeWhile fun c => (hexValue? c).isSome) ∧
      (lower cs).filterMap hexValue? = cs.filterMap hexValue? := by
  constructor
  · simp only [lower, ← List.map_take, List.takeWhile_map, Function.comp_def, hexValue_toLower]
  · simp only [lower, List.filterMap_map, Function.comp_def, hexValue_toLower]

-- By induction on the fuel, along the branches of the reader.
theorem groups_lower (fuel : Nat) (d : Draft) (cs : List Char) :
    groups fuel d (lower cs) = groups fuel d cs := by
  induction fuel generalizing d cs with
  | zero =>
      cases cs with
      | nil => rfl
      | cons c cs => rfl
  | succ fuel ih =>
      cases cs with
      | nil => rfl
      | cons c cs =>
          have colon : ∀ c : Char, c.toLower = ':' ↔ c = ':' :=
            fun c => toLower_eq_iff ':' c (by decide)
          have dot : ∀ c : Char, c.toLower = '.' ↔ c = '.' :=
            fun c => toLower_eq_iff '.' c (by decide)
          have taken := (digits_lower (c :: cs)).1
          have octets := octets_lower (c :: cs)
          change groups (fuel + 1) d (c.toLower :: lower cs) = _
          rw [show lower (c :: cs) = c.toLower :: lower cs from rfl] at taken octets
          unfold groups
          by_cases full : d.size = 8
          · rw [if_pos full, if_pos full]
          · rw [if_neg full, if_neg full]
            by_cases marked : c = ':'
            · rw [if_pos marked, if_pos ((colon c).mpr marked)]
              cases d.behind with
              | some groups => rfl
              | none => exact ih _ cs
            · rw [if_neg marked, if_neg fun low => marked ((colon c).mp low)]
              dsimp only
              rw [taken, octets]
              generalize ((c :: cs).take 4).takeWhile (fun c => (hexValue? c).isSome) = digits
              have size : (lower digits).length = digits.length := List.length_map _
              have dropped : (c.toLower :: lower cs).drop (lower digits).length =
                  lower ((c :: cs).drop digits.length) := by
                rw [size]
                change ((c :: cs).map Char.toLower).drop digits.length = _
                rw [lower, List.map_drop]
              have unwritten : (lower digits).isEmpty = digits.isEmpty := by simp [lower]
              rw [dropped, (digits_lower digits).2, unwritten]
              rcases (c :: cs).drop digits.length with _ | ⟨sign, rest⟩
              · rfl
              · by_cases dotted : sign = '.'
                · subst dotted
                  rfl
                · by_cases more : sign = ':'
                  · subst more
                    cases rest with
                    | nil => rfl
                    | cons next rest => exact ih _ (next :: rest)
                  · have low : lower (sign :: rest) = sign.toLower :: lower rest := rfl
                    have undotted := fun same => dotted ((dot sign).mp same)
                    have unmarked := fun same => more ((colon sign).mp same)
                    rw [low]
                    split
                    all_goals simp_all

/-- The groups of a text, if they fill an address. -/
def finished (fuel : Nat) (d : Draft) (cs : List Char) : Except UrlError Net.Groups :=
  match (groups fuel d cs).bind Draft.finish with
  | some groups => .ok groups
  | none => .error .badV6

theorem parse_gapped (rest : List Char) :
    parse (':' :: ':' :: rest) = finished (rest.length + 3) ⟨[], some []⟩ rest := rfl

theorem parse_halved (b : Char) (rest : List Char) (other : b ≠ ':') :
    parse (':' :: b :: rest) = .error .badV6 := by
  unfold parse
  split
  · rename_i same
    cases same
    exact absurd rfl other
  · rfl
  · rename_i unmarked same
    cases same
    exact (unmarked rfl).elim
  · rename_i few
    exact absurd rfl (few _ _ _)

theorem parse_open (a b : Char) (rest : List Char) (first : a ≠ ':') :
    parse (a :: b :: rest) = finished (rest.length + 3) ⟨[], none⟩ (a :: b :: rest) := by
  unfold parse
  split
  · rename_i same
    cases same
    exact absurd rfl first
  · rename_i same
    cases same
    exact absurd rfl first
  · rfl
  · rename_i few
    exact absurd rfl (few _ _ _)

theorem parse_single (a : Char) : parse [a] = .error .badV6 := by
  unfold parse
  split
  · rename_i same
    cases same
  · rfl
  · rename_i same
    cases same
  · rfl

theorem finished_lower (fuel : Nat) (d : Draft) (cs : List Char) :
    finished fuel d (lower cs) = finished fuel d cs := by
  unfold finished
  rw [groups_lower]

theorem parse_lower (cs : List Char) : parse (lower cs) = parse cs := by
  have colon : ∀ c : Char, c.toLower = ':' ↔ c = ':' :=
    fun c => toLower_eq_iff ':' c (by decide)
  have size : ∀ cs, (lower cs).length = cs.length := fun cs => List.length_map _
  rcases cs with _ | ⟨a, _ | ⟨b, rest⟩⟩
  · rfl
  · exact (parse_single a.toLower).trans (parse_single a).symm
  · change parse (a.toLower :: b.toLower :: lower rest) = _
    by_cases first : a = ':'
    · subst first
      by_cases second : b = ':'
      · subst second
        exact (parse_gapped _).trans (by rw [size, finished_lower, parse_gapped])
      · have other : b.toLower ≠ ':' := fun same => second ((colon b).mp same)
        exact (parse_halved _ _ other).trans (parse_halved b rest second).symm
    · have other : a.toLower ≠ ':' := fun same => first ((colon a).mp same)
      rw [parse_open _ _ _ other, parse_open a b rest first, size]
      exact finished_lower _ _ (a :: b :: rest)

end V6

theorem DomainName.toAscii_lower (name : List Char) :
    toAscii? (lower name) = toAscii? name := by
  have mapped : ∀ c : Char, mapPoint c.toLower.toNat = mapPoint c.toNat := by
    intro c
    by_cases ascii : c.toNat < 128
    · have small := of_ascii (fun c => c.toLower.toNat < 128) (by decide) c ascii
      unfold mapPoint
      rw [if_pos small, if_pos ascii, Char.ofNat_toNat, Char.ofNat_toNat, toLower_toLower]
    · rw [(uncased c ascii).1]
  unfold toAscii?
  simp only [lower, List.flatMap_map, mapped]

namespace Host

theorem bracketed_lower (cs : List Char) : bracketed (lower cs) = bracketed cs := by
  have closed : (lower cs).getLast? = some ']' ↔ cs.getLast? = some ']' := by
    rw [lower, List.getLast?_map]
    cases cs.getLast? with
    | none => simp
    | some c =>
        simp only [Option.map_some, Option.some.injEq]
        exact toLower_eq_iff ']' c (by decide)
  have inner : (lower cs).dropLast = lower cs.dropLast := by
    simp only [lower, List.dropLast_eq_take, List.map_take, List.length_map]
  unfold bracketed
  simp only [closed, inner, V6.parse_lower]

/-- The host that a name says, without brackets and escapes. -/
def named (name : List Char) : Except UrlError Host :=
  match DomainName.toAscii? name with
  | none => .error .badDomainName
  | some [] => .error .noHost
  | some name =>
      if V4.isAddress name then (V4.parse name).map fun octets => .address (.v4 octets)
      else .ok (.domain name)

theorem parse_named (cs : List Char) (unescaped : '%' ∉ cs)
    (unbracketed : cs.head? ≠ some '[') : parse cs = named cs := by
  have plain : (Utf8.decode? (Percent.decode cs)).bind DomainName.toAscii? =
      DomainName.toAscii? cs := by
    rw [Percent.decode_plain cs unescaped]
    rfl
  unfold parse
  split
  · exact absurd rfl unbracketed
  · rw [plain]
    rfl

theorem parse_lower (cs : List Char) (unescaped : '%' ∉ cs) : parse (lower cs) = parse cs := by
  have bracket : (lower cs).head? = some '[' ↔ cs.head? = some '[' :=
    head?_lower_iff '[' cs (by decide)
  by_cases bracketed_ : cs.head? = some '['
  · cases cs with
    | nil => cases bracketed_
    | cons c rest =>
        cases bracketed_
        exact bracketed_lower rest
  · have escaped : '%' ∉ lower cs := by
      intro member
      obtain ⟨c, inside, same⟩ := List.mem_map.mp member
      rw [(toLower_eq_iff '%' c (by decide)).mp same] at inside
      exact unescaped inside
    rw [parse_named cs unescaped bracketed_,
      parse_named _ escaped fun same => bracketed_ (bracket.mp same)]
    unfold named
    rw [DomainName.toAscii_lower]

end Host

end Url

end AccessGate
