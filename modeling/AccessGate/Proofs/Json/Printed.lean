import AccessGate.Json.Reader

/-!
Printed values. The text of a value is read as that value: the tree of the text has no faults, and the
readers of records find in it what was printed.
-/

namespace AccessGate.Json

open Text (hexDigit hexValue? valueIn)

/-! ## Strings -/

theorem Cursor.skipBlanks_at (cur : Cursor) (c : Char) (rest : List Char)
    (here : cur.rest = c :: rest) (solid : isBlank c = false) : cur.skipBlanks = cur := by
  unfold skipBlanks
  rw [here, skip, solid, if_neg Bool.false_ne_true]

theorem Cursor.step_rest (cur : Cursor) (c : Char) (rest : List Char) :
    (cur.step c rest).rest = rest := by
  unfold step
  split
  · rfl
  · rfl

def shortEscapes : List (Char × Char) :=
  [('"', '"'), ('\\', '\\'), ('n', '\n'), ('r', '\r'), ('t', '\t'), ('b', Char.ofNat 8),
    ('f', Char.ofNat 12)]

theorem escapeSequence_short (s : Spelling) (cur : Cursor) (mark c : Char) (rest : List Char)
    (here : cur.rest = mark :: rest) (known : (mark, c) ∈ shortEscapes) :
    escapeSequence s cur = .ok (s.push c, cur.step mark rest) := by
  unfold escapeSequence
  rw [here]
  simp only [shortEscapes, List.mem_cons, List.not_mem_nil, or_false, Prod.mk.injEq] at known
  rcases known with ⟨rfl, rfl⟩ | ⟨rfl, rfl⟩ | ⟨rfl, rfl⟩ | ⟨rfl, rfl⟩ | ⟨rfl, rfl⟩ | ⟨rfl, rfl⟩ |
    ⟨rfl, rfl⟩
  all_goals rfl

theorem fourDigits_code (cur : Cursor) (n : Nat) (rest : List Char) (low : n < 32)
    (here : cur.rest = '0' :: '0' :: hexDigit (n / 16) :: hexDigit (n % 16) :: rest) :
    ∃ next, next.rest = rest ∧ fourDigits cur = .ok (n, next) := by
  have table : ∀ n : Fin 32, ['0', '0', hexDigit (n.val / 16), hexDigit (n.val % 16)].mapM hexValue? =
      some [0, 0, n.val / 16, n.val % 16] := by
    decide
  have digits := table ⟨n, low⟩
  have value : valueIn 16 [0, 0, n / 16, n % 16] = n := by
    simp only [valueIn, List.foldl_cons, List.foldl_nil]
    omega
  refine ⟨cur.advance ['0', '0', hexDigit (n / 16), hexDigit (n % 16)], ?_, ?_⟩
  · simp only [Cursor.advance, Cursor.step_rest, here, List.tail_cons]
  · unfold fourDigits
    rw [here]
    dsimp only at digits ⊢
    rw [digits]
    simp only [value]

theorem escapeSequence_code (s : Spelling) (cur : Cursor) (c : Char) (rest : List Char)
    (low : c.toNat < 32)
    (here : cur.rest = 'u' :: '0' :: '0' :: hexDigit (c.toNat / 16) :: hexDigit (c.toNat % 16) ::
      rest) :
    ∃ next, next.rest = rest ∧ escapeSequence s cur = .ok (s.push c, next) := by
  obtain ⟨next, behind, digits⟩ := fourDigits_code
    (cur.step 'u' ('0' :: '0' :: hexDigit (c.toNat / 16) :: hexDigit (c.toNat % 16) :: rest))
    c.toNat rest low (Cursor.step_rest _ _ _)
  have single : isLowSurrogate c.toNat = false ∧ isHighSurrogate c.toNat = false := by
    simp only [isLowSurrogate, isHighSurrogate, Bool.and_eq_false_iff, decide_eq_false_iff_not]
    omega
  refine ⟨next, behind, ?_⟩
  unfold escapeSequence
  rw [here]
  dsimp only
  rw [digits]
  simp only [single.1, single.2, Bool.false_eq_true, if_false, Char.ofNat_toNat]

theorem stringRest_escape (fuel : Nat) (s t : Spelling) (cur next : Cursor) (rest : List Char)
    (here : cur.rest = '\\' :: rest)
    (read : escapeSequence s (cur.step '\\' rest) = .ok (t, next)) :
    stringRest (fuel + 1) s cur = stringRest fuel t next := by
  rw [stringRest, here]
  dsimp only
  rw [if_neg (by decide), if_pos rfl, read]

theorem escapeChar_ways (c : Char) :
    (∃ mark, escapeChar c = ['\\', mark] ∧ (mark, c) ∈ shortEscapes) ∨
      (c.toNat < 32 ∧ escapeChar c =
        ['\\', 'u', '0', '0', hexDigit (c.toNat / 16), hexDigit (c.toNat % 16)]) ∨
      (c ≠ '"' ∧ c ≠ '\\' ∧ ¬ c.toNat < 32 ∧ escapeChar c = [c]) := by
  have coded : ∀ n, c.toNat = n → c = Char.ofNat n := by
    rintro n rfl
    exact (Char.ofNat_toNat c).symm
  unfold escapeChar
  split
  · rename_i same
    exact .inl ⟨'"', rfl, by rw [same]; decide⟩
  split
  · rename_i same
    exact .inl ⟨'\\', rfl, by rw [same]; decide⟩
  split
  · rename_i same
    exact .inl ⟨'n', rfl, by rw [same]; decide⟩
  split
  · rename_i same
    exact .inl ⟨'r', rfl, by rw [same]; decide⟩
  split
  · rename_i same
    exact .inl ⟨'t', rfl, by rw [same]; decide⟩
  split
  · rename_i same
    exact .inl ⟨'b', rfl, by rw [coded 8 same]; decide⟩
  split
  · rename_i same
    exact .inl ⟨'f', rfl, by rw [coded 12 same]; decide⟩
  split
  · rename_i low
    exact .inr (.inl ⟨low, rfl⟩)
  · rename_i noQuote noSlash _ _ _ _ _ high
    exact .inr (.inr ⟨noQuote, noSlash, high, rfl⟩)

theorem escapeChar_some (c : Char) : 0 < (escapeChar c).length := by
  rcases escapeChar_ways c with ⟨mark, text, -⟩ | ⟨-, text⟩ | ⟨-, -, -, text⟩
  all_goals simp [text]

theorem stringRest_char (fuel : Nat) (s : Spelling) (cur : Cursor) (c : Char) (rest : List Char)
    (here : cur.rest = escapeChar c ++ rest) :
    ∃ next, next.rest = rest ∧ stringRest (fuel + 1) s cur = stringRest fuel (s.push c) next := by
  rcases escapeChar_ways c with ⟨mark, text, known⟩ | ⟨low, text⟩ | ⟨noQuote, noSlash, high, text⟩
  · rw [text] at here
    refine ⟨(cur.step '\\' (mark :: rest)).step mark rest, Cursor.step_rest _ _ _,
      stringRest_escape fuel s _ cur _ (mark :: rest) here ?_⟩
    exact escapeSequence_short s _ mark c rest (Cursor.step_rest _ _ _) known
  · rw [text] at here
    obtain ⟨next, behind, read⟩ := escapeSequence_code s (cur.step '\\' _) c rest low
      (Cursor.step_rest _ _ _)
    exact ⟨next, behind, stringRest_escape fuel s _ cur next _ here read⟩
  · rw [text] at here
    refine ⟨cur.step c rest, Cursor.step_rest _ _ _, ?_⟩
    rw [stringRest, here]
    dsimp only [List.singleton_append]
    rw [if_neg noQuote, if_neg noSlash, if_neg high]

theorem stringRest_chars (cs tail : List Char) (fuel : Nat) (s : Spelling) (cur : Cursor)
    (here : cur.rest = cs.flatMap escapeChar ++ '"' :: tail) (enough : cs.length < fuel) :
    ∃ after, after.rest = tail ∧
      stringRest fuel s cur = .ok (⟨cs.reverse ++ s.backwards, s.fault⟩, after) := by
  induction cs generalizing fuel s cur with
  | nil =>
      obtain ⟨fuel, rfl⟩ := Nat.exists_eq_succ_of_ne_zero (Nat.ne_of_gt enough)
      refine ⟨cur.step '"' tail, Cursor.step_rest _ _ _, ?_⟩
      rw [Nat.succ_eq_add_one, stringRest, here]
      rfl
  | cons c cs ih =>
      obtain ⟨fuel, rfl⟩ := Nat.exists_eq_succ_of_ne_zero (Nat.ne_zero_of_lt enough)
      rw [List.flatMap_cons, List.append_assoc] at here
      obtain ⟨next, behind, step⟩ := stringRest_char fuel s cur c _ here
      obtain ⟨after, ends, read⟩ := ih fuel (s.push c) next behind (by simpa using enough)
      refine ⟨after, ends, ?_⟩
      rw [Nat.succ_eq_add_one, step, read]
      simp [Spelling.push]

theorem stringBody_quote (name : String) (tail : List Char) (fuel : Nat) (cur : Cursor)
    (here : '"' :: cur.rest = quote name ++ tail) (enough : cur.rest.length ≤ fuel) :
    ∃ s after, stringBody fuel cur = .ok (s, after) ∧ s.read = .ok name ∧ after.rest = tail := by
  have inner : cur.rest = name.toList.flatMap escapeChar ++ '"' :: tail := by
    simpa [quote] using here
  have short : ∀ cs : List Char, cs.length ≤ (cs.flatMap escapeChar).length := by
    intro cs
    induction cs with
    | nil => exact Nat.le_refl _
    | cons c cs ih =>
        have some_ := escapeChar_some c
        simp only [List.flatMap_cons, List.length_append, List.length_cons]
        omega
  have size := short name.toList
  have length := congrArg List.length inner
  simp only [List.length_append, List.length_cons] at length
  obtain ⟨after, ends, read⟩ := stringRest_chars name.toList tail fuel ⟨[], none⟩ cur inner
    (by omega)
  refine ⟨_, after, read, ?_, ends⟩
  simp [Spelling.read]

theorem quote_injective (s t : String) (same : quote s = quote t) : s = t := by
  let cur := Cursor.start (quote s).tail
  have shape : ∀ s, quote s = '"' :: (quote s).tail := fun s => rfl
  obtain ⟨spelling, after, read, found, -⟩ := stringBody_quote s [] cur.rest.length cur
    (by rw [List.append_nil, shape]; rfl) (Nat.le_refl _)
  obtain ⟨other, behind, again, told, -⟩ := stringBody_quote t [] cur.rest.length cur
    (by rw [List.append_nil, ← same, shape]; rfl) (Nat.le_refl _)
  rw [read] at again
  cases again
  exact Except.ok.inj (found.symm.trans told)

/-! ## Trees without faults -/

mutual

/-- A tree without faults, and the value that it stands for. -/
inductive Node.Denotes : Node → Value → Prop where
  | null (first after : Option Place) : Node.Denotes (.null first after) .null
  | bool (first after : Option Place) (b : Bool) : Node.Denotes (.bool first after b) (.bool b)
  | number (first after : Option Place) (n : Number) :
      Node.Denotes (.number first after (.ok n)) (.number n)
  | string (first after : Option Place) (s : String) :
      Node.Denotes (.string first after (.ok s)) (.string s)
  | object (first : Option Place) (entries : Entries) (members : Members)
      (distinct : (Members.names members).Nodup) (each : Entries.Denote entries members) :
      Node.Denotes (.object first none entries) (.object members)
  | array (first : Option Place) (items : Items) (values : List Value)
      (each : Items.Denote items values) : Node.Denotes (.array first none items) (.array values)

inductive Items.Denote : Items → List Value → Prop where
  | done (after : Option Place) : Items.Denote (.done after) []
  | more (surplus : Option SyntaxError) (node : Node) (value : Value) (rest : Items)
      (values : List Value) (first : Node.Denotes node value) (others : Items.Denote rest values) :
      Items.Denote (.more surplus node rest) (value :: values)

inductive Entries.Denote : Entries → Members → Prop where
  | done (after : Option Place) : Entries.Denote (.done after) []
  | more (name : String) (after : Option Place) (node : Node) (value : Value) (rest : Entries)
      (members : Members) (first : Node.Denotes node value) (others : Entries.Denote rest members) :
      Entries.Denote (.more (.ok name) after node rest) ((name, value) :: members)

end

/-- What can stand behind a value that is printed. -/
inductive EndsValue : List Char → Prop
  | nothing : EndsValue []
  | sign (c : Char) (rest : List Char) (known : c ∈ [',', ']', '\x7d']) : EndsValue (c :: rest)

/-- A value whose text is read back wherever it stands at a depth. Each character may cost two steps,
into a list and on to its first item. -/
def ReadsBack (depth : Nat) (value : Value) : Prop :=
  ∀ (fuel : Nat) (cur : Cursor) (tail : List Char), EndsValue tail → cur.rest = value.chars ++ tail →
    2 * cur.rest.length < fuel → ∃ node after, nodeAt fuel depth cur = (node, some after) ∧
      after.rest = tail ∧ node.Denotes value

theorem word_ahead (letters tail : List Char) (cur : Cursor) (here : cur.rest = letters ++ tail) :
    ∃ after, after.rest = tail ∧ word cur letters = .ok after := by
  induction letters generalizing cur with
  | nil => exact ⟨cur, here, rfl⟩
  | cons c letters ih =>
      obtain ⟨after, behind, read⟩ := ih (cur.step c (letters ++ tail)) (Cursor.step_rest _ _ _)
      refine ⟨after, behind, ?_⟩
      rw [word, here]
      dsimp only [List.cons_append]
      rw [if_pos rfl, read]

theorem readsBack_null (depth : Nat) : ReadsBack depth .null := by
  intro fuel cur tail _ here enough
  obtain ⟨fuel, rfl⟩ := Nat.exists_eq_succ_of_ne_zero (Nat.ne_zero_of_lt enough)
  change cur.rest = 'n' :: (['u', 'l', 'l'] ++ tail) at here
  obtain ⟨after, behind, read⟩ := word_ahead ['u', 'l', 'l'] tail (cur.step 'n' _)
    (Cursor.step_rest _ _ _)
  refine ⟨.null (some cur.place) (some after.place), after, ?_, behind, .null _ _⟩
  rw [Nat.succ_eq_add_one, nodeAt, Cursor.skipBlanks_at cur 'n' _ here rfl, here]
  dsimp only
  rw [read]
  rfl

theorem readsBack_bool (depth : Nat) (b : Bool) : ReadsBack depth (.bool b) := by
  intro fuel cur tail _ here enough
  obtain ⟨fuel, rfl⟩ := Nat.exists_eq_succ_of_ne_zero (Nat.ne_zero_of_lt enough)
  cases b with
  | false =>
      change cur.rest = 'f' :: (['a', 'l', 's', 'e'] ++ tail) at here
      obtain ⟨after, behind, read⟩ := word_ahead ['a', 'l', 's', 'e'] tail (cur.step 'f' _)
        (Cursor.step_rest _ _ _)
      refine ⟨.bool (some cur.place) (some after.place) false, after, ?_, behind, .bool _ _ _⟩
      rw [Nat.succ_eq_add_one, nodeAt, Cursor.skipBlanks_at cur 'f' _ here rfl, here]
      dsimp only
      rw [read]
      rfl
  | true =>
      change cur.rest = 't' :: (['r', 'u', 'e'] ++ tail) at here
      obtain ⟨after, behind, read⟩ := word_ahead ['r', 'u', 'e'] tail (cur.step 't' _)
        (Cursor.step_rest _ _ _)
      refine ⟨.bool (some cur.place) (some after.place) true, after, ?_, behind, .bool _ _ _⟩
      rw [Nat.succ_eq_add_one, nodeAt, Cursor.skipBlanks_at cur 't' _ here rfl, here]
      dsimp only
      rw [read]
      rfl

theorem readsBack_string (depth : Nat) (s : String) : ReadsBack depth (.string s) := by
  intro fuel cur tail _ here enough
  obtain ⟨fuel, rfl⟩ := Nat.exists_eq_succ_of_ne_zero (Nat.ne_zero_of_lt enough)
  rw [Value.chars] at here
  obtain ⟨rest, shape⟩ : ∃ rest, quote s ++ tail = '"' :: rest := ⟨_, rfl⟩
  rw [shape] at here
  rw [here, List.length_cons] at enough
  obtain ⟨spelling, after, read, found, behind⟩ := stringBody_quote s tail (fuel + 1)
    (cur.step '"' rest) (by rw [Cursor.step_rest, shape]) (by rw [Cursor.step_rest]; omega)
  refine ⟨.string (some cur.place) (some after.place) spelling.read, after, ?_, behind, ?_⟩
  · rw [Nat.succ_eq_add_one, nodeAt, Cursor.skipBlanks_at cur '"' _ here rfl, here]
    dsimp only
    rw [read]
    rfl
  · rw [found]
    exact .string _ _ s

/-! ## Members -/

def membersAhead (isFirst : Bool) (members : Members) : List Char :=
  match members with
  | [] => []
  | _ => if isFirst then memberChars members else ',' :: memberChars members

theorem membersAhead_cons (name : String) (value : Value) (members : Members) :
    memberChars ((name, value) :: members) =
      quote name ++ ':' :: (value.chars ++ membersAhead false members) := by
  cases members with
  | nil => simp [memberChars, membersAhead]
  | cons next members => simp [memberChars, membersAhead]

theorem membersAhead_ends (members : Members) (tail : List Char) :
    EndsValue (membersAhead false members ++ '\x7d' :: tail) := by
  cases members with
  | nil => exact .sign '\x7d' tail (by decide)
  | cons next members => exact .sign ',' _ (by decide)

def entryAt (fuel depth : Nat) (quoted : Cursor) : Entries × Option Cursor :=
  match stringBody (fuel + 1) (quoted.step '"' quoted.rest.tail) with
  | .error e => (.broken e, none)
  | .ok (s, behind) =>
      let behind := behind.skipBlanks
      let after := some behind.place
      match behind.rest with
      | ':' :: tail =>
          let value := nodeAt fuel depth (behind.step ':' tail)
          match value.2 with
          | none => (.more s.read after value.1 (.broken (behind.fail .endInObject)), none)
          | some next =>
              let others := entriesAt fuel depth false next
              (.more s.read after value.1 others.1, others.2)
      | [] => (.more s.read after (.broken (behind.peekFail .endInObject))
          (.broken (behind.peekFail .endInObject)), none)
      | _ => (.more s.read after (.broken (behind.peekFail .colonExpected))
          (.broken (behind.peekFail .colonExpected)), none)

theorem entriesAt_first (fuel depth : Nat) (cur : Cursor) (rest : List Char)
    (here : cur.rest = '"' :: rest) :
    entriesAt (fuel + 1) depth true cur = entryAt fuel depth cur := by
  rw [entriesAt, Cursor.skipBlanks_at cur '"' rest here rfl]
  dsimp only
  split
  · rename_i none_
    rw [here] at none_
    cases none_
  · rename_i closed
    rw [here] at closed
    cases closed
  · rename_i shape
    rw [here] at shape
    cases shape
    rfl

theorem entriesAt_next (fuel depth : Nat) (cur : Cursor) (rest : List Char)
    (here : cur.rest = ',' :: '"' :: rest) :
    entriesAt (fuel + 1) depth false cur =
      entryAt fuel depth (cur.step ',' ('"' :: rest)) := by
  have there := Cursor.step_rest cur ',' ('"' :: rest)
  rw [entriesAt, Cursor.skipBlanks_at cur ',' _ here rfl]
  dsimp only
  split
  · rename_i none_
    rw [here] at none_
    cases none_
  · rename_i closed
    rw [here] at closed
    cases closed
  · rename_i shape
    rw [here] at shape
    cases shape
    rw [Cursor.skipBlanks_at _ '"' rest there rfl, there]
    rfl

theorem entryAt_read (fuel depth : Nat) (quoted : Cursor) (name : String) (value : Value)
    (tail : List Char) (back : ReadsBack depth value) (ends : EndsValue tail)
    (here : quoted.rest = quote name ++ ':' :: (value.chars ++ tail))
    (enough : 2 * quoted.rest.length ≤ fuel) :
    ∃ after node next, next.rest = tail ∧ node.Denotes value ∧
      entryAt fuel depth quoted =
        (.more (.ok name) after node (entriesAt fuel depth false next).1,
          (entriesAt fuel depth false next).2) := by
  obtain ⟨rest, shape⟩ : ∃ rest, quote name ++ ':' :: (value.chars ++ tail) = '"' :: rest := ⟨_, rfl⟩
  have inner : quoted.rest = '"' :: rest := here.trans shape
  rw [inner, List.length_cons] at enough
  obtain ⟨s, behind, spelled, found, colon⟩ := stringBody_quote name (':' :: (value.chars ++ tail))
    (fuel + 1) (quoted.step '"' rest) (by rw [Cursor.step_rest, shape])
    (by rw [Cursor.step_rest]; omega)
  have size : 2 * (value.chars ++ tail).length < fuel := by
    have whole := congrArg List.length shape
    simp only [quote, List.length_append, List.length_cons] at whole ⊢
    omega
  obtain ⟨node, next, item, last, denotes⟩ := back fuel (behind.step ':' (value.chars ++ tail)) tail
    ends (Cursor.step_rest _ _ _) (by rw [Cursor.step_rest]; exact size)
  refine ⟨some behind.place, node, next, last, denotes, ?_⟩
  unfold entryAt
  rw [inner, List.tail_cons, spelled]
  dsimp only
  rw [Cursor.skipBlanks_at behind ':' _ colon rfl, colon, found]
  simp only [item]

-- By induction on the members, the first of which has no comma ahead of it.
theorem entriesAt_members (depth : Nat) (members : Members) (tail : List Char)
    (back : ∀ member ∈ members, ReadsBack depth member.2) (fuel : Nat) (isFirst : Bool)
    (cur : Cursor) (here : cur.rest = membersAhead isFirst members ++ '\x7d' :: tail)
    (enough : 2 * cur.rest.length < fuel) :
    ∃ entries after, entriesAt fuel depth isFirst cur = (entries, some after) ∧
      after.rest = tail ∧ entries.Denote members := by
  induction members generalizing fuel isFirst cur with
  | nil =>
      obtain ⟨fuel, rfl⟩ := Nat.exists_eq_succ_of_ne_zero (Nat.ne_zero_of_lt enough)
      have closed : cur.rest = '\x7d' :: tail := here
      refine ⟨.done (some (cur.step '\x7d' tail).place), cur.step '\x7d' tail, ?_,
        Cursor.step_rest _ _ _, .done _⟩
      rw [Nat.succ_eq_add_one, entriesAt, Cursor.skipBlanks_at cur '\x7d' tail closed rfl]
      dsimp only
      rw [closed]
      rfl
  | cons member members ih =>
      obtain ⟨name, value⟩ := member
      obtain ⟨fuel, rfl⟩ := Nat.exists_eq_succ_of_ne_zero (Nat.ne_zero_of_lt enough)
      obtain ⟨inner, shape⟩ : ∃ inner, memberChars ((name, value) :: members) ++ '\x7d' :: tail =
          '"' :: inner := by
        rw [membersAhead_cons]
        exact ⟨_, rfl⟩
      have written : '"' :: inner =
          quote name ++ ':' :: (value.chars ++ (membersAhead false members ++ '\x7d' :: tail)) := by
        rw [← shape, membersAhead_cons]
        simp
      obtain ⟨quoted, same, text⟩ : ∃ quoted : Cursor,
          entriesAt (fuel + 1) depth isFirst cur = entryAt fuel depth quoted ∧
            quoted.rest = '"' :: inner ∧ (cur.rest.length = quoted.rest.length ∨
              cur.rest.length = quoted.rest.length + 1) := by
        cases isFirst with
        | true =>
            have starts : cur.rest = '"' :: inner := here.trans shape
            exact ⟨cur, entriesAt_first fuel depth cur inner starts, starts, .inl rfl⟩
        | false =>
            have starts : cur.rest = ',' :: '"' :: inner := here.trans (congrArg (',' :: ·) shape)
            refine ⟨_, entriesAt_next fuel depth cur inner starts, Cursor.step_rest _ _ _, .inr ?_⟩
            rw [Cursor.step_rest, starts]
            rfl
      obtain ⟨text, size⟩ := text
      obtain ⟨after, node, next, ends, denotes, read⟩ := entryAt_read fuel depth quoted name value _
        (back _ List.mem_cons_self) (membersAhead_ends members tail) (text.trans written) (by omega)
      obtain ⟨entries, last, others, behind, denote⟩ := ih
        (fun member inside => back member (List.mem_cons_of_mem _ inside)) fuel false next ends (by
          have whole := congrArg List.length (text.trans written)
          rw [ends]
          simp only [quote, List.length_append, List.length_cons] at whole ⊢
          omega)
      refine ⟨.more (.ok name) after node entries, last, ?_, behind,
        .more name after node value entries members denotes denote⟩
      rw [Nat.succ_eq_add_one, same, read, others]

theorem readsBack_object (depth : Nat) (members : Members) (room : depth < depthLimit)
    (distinct : (Members.names members).Nodup)
    (back : ∀ member ∈ members, ReadsBack (depth + 1) member.2) :
    ReadsBack depth (.object members) := by
  intro fuel cur tail _ here enough
  obtain ⟨fuel, rfl⟩ := Nat.exists_eq_succ_of_ne_zero (Nat.ne_zero_of_lt enough)
  have ahead : membersAhead true members = memberChars members := by
    cases members with
    | nil => rfl
    | cons first members => rfl
  have opened : cur.rest = '\x7b' :: (membersAhead true members ++ '\x7d' :: tail) := by
    rw [here, Value.chars, ahead]
    simp
  rw [opened, List.length_cons] at enough
  obtain ⟨entries, after, read, behind, denote⟩ := entriesAt_members (depth + 1) members tail back
    fuel true (cur.step '\x7b' _) (Cursor.step_rest _ _ _) (by rw [Cursor.step_rest]; omega)
  refine ⟨.object (some cur.place) none entries, after, ?_, behind, .object _ _ _ distinct denote⟩
  rw [Nat.succ_eq_add_one, nodeAt, Cursor.skipBlanks_at cur '\x7b' _ opened rfl, opened]
  dsimp only
  rw [read, if_pos room]
  rfl

/-! ## Items -/

def Value.StartsOwn (value : Value) : Prop :=
  ∃ c rest, value.chars = c :: rest ∧ Cursor.isBlank c = false ∧ c ≠ ']'

theorem Value.startsOwn_object (members : Members) : (Value.object members).StartsOwn :=
  ⟨'\x7b', _, rfl, rfl, by decide⟩

def itemsAhead (isFirst : Bool) (values : List Value) : List Char :=
  match values with
  | [] => []
  | _ => if isFirst then itemChars values else ',' :: itemChars values

theorem itemsAhead_cons (value : Value) (values : List Value) :
    itemChars (value :: values) = value.chars ++ itemsAhead false values := by
  cases values with
  | nil => simp [itemChars, itemsAhead]
  | cons next values => simp [itemChars, itemsAhead]

theorem itemsAhead_ends (values : List Value) (tail : List Char) :
    EndsValue (itemsAhead false values ++ ']' :: tail) := by
  cases values with
  | nil => exact .sign ']' tail (by decide)
  | cons next values => exact .sign ',' _ (by decide)

def itemAt (fuel depth : Nat) (surplus : SyntaxError) (begun : Cursor) : Items × Option Cursor :=
  let item := nodeAt fuel depth begun
  match item.2 with
  | none => (.more (some surplus) item.1 (.broken surplus surplus), none)
  | some after =>
      let others := itemsAt fuel depth false after
      (.more (some surplus) item.1 others.1, others.2)

theorem itemsAt_first (fuel depth : Nat) (cur : Cursor) (c : Char) (rest : List Char)
    (here : cur.rest = c :: rest) (solid : Cursor.isBlank c = false) (inside : c ≠ ']') :
    itemsAt (fuel + 1) depth true cur = itemAt fuel depth (surplusAt cur) cur := by
  rw [itemsAt, Cursor.skipBlanks_at cur c rest here solid]
  dsimp only
  split
  · rename_i none_
    rw [here] at none_
    cases none_
  · rename_i closed
    rw [here] at closed
    cases closed
    exact absurd rfl inside
  · rfl

theorem itemsAt_next (fuel depth : Nat) (cur : Cursor) (c : Char) (rest : List Char)
    (here : cur.rest = ',' :: c :: rest) (solid : Cursor.isBlank c = false) (inside : c ≠ ']') :
    itemsAt (fuel + 1) depth false cur =
      itemAt fuel depth (surplusAt cur) (cur.step ',' (c :: rest)) := by
  have there := Cursor.step_rest cur ',' (c :: rest)
  rw [itemsAt, Cursor.skipBlanks_at cur ',' _ here rfl]
  dsimp only
  split
  · rename_i none_
    rw [here] at none_
    cases none_
  · rename_i closed
    rw [here] at closed
    cases closed
  · rename_i shape
    rw [here] at shape
    cases shape
    rw [Cursor.skipBlanks_at _ c rest there solid, there]
    simp only [Bool.false_eq_true, if_false, if_true]
    split
    · rename_i fault
      split at fault
      · rename_i none_
        cases none_
      · rename_i closed
        cases closed
        exact absurd rfl inside
      · cases fault
    · rename_i begun
      split at begun
      · cases begun
      · cases begun
      · cases begun
        rfl

-- By induction on the items, the first of which has no comma ahead of it.
theorem itemsAt_values (depth : Nat) (values : List Value) (tail : List Char)
    (own : ∀ value ∈ values, value.StartsOwn) (back : ∀ value ∈ values, ReadsBack depth value)
    (fuel : Nat) (isFirst : Bool) (cur : Cursor)
    (here : cur.rest = itemsAhead isFirst values ++ ']' :: tail)
    (enough : 2 * cur.rest.length + 1 < fuel) :
    ∃ items after, itemsAt fuel depth isFirst cur = (items, some after) ∧
      after.rest = tail ∧ items.Denote values := by
  induction values generalizing fuel isFirst cur with
  | nil =>
      obtain ⟨fuel, rfl⟩ := Nat.exists_eq_succ_of_ne_zero (Nat.ne_zero_of_lt enough)
      have closed : cur.rest = ']' :: tail := here
      refine ⟨.done (some (cur.step ']' tail).place), cur.step ']' tail, ?_,
        Cursor.step_rest _ _ _, .done _⟩
      rw [Nat.succ_eq_add_one, itemsAt, Cursor.skipBlanks_at cur ']' tail closed rfl]
      dsimp only
      rw [closed]
      rfl
  | cons value values ih =>
      obtain ⟨fuel, rfl⟩ := Nat.exists_eq_succ_of_ne_zero (Nat.ne_zero_of_lt enough)
      obtain ⟨c, inner, starts, solid, inside⟩ := own value List.mem_cons_self
      have written : itemChars (value :: values) ++ ']' :: tail =
          value.chars ++ (itemsAhead false values ++ ']' :: tail) := by
        rw [itemsAhead_cons, List.append_assoc]
      obtain ⟨begun, same, text, size⟩ : ∃ begun : Cursor,
          itemsAt (fuel + 1) depth isFirst cur = itemAt fuel depth (surplusAt cur) begun ∧
            begun.rest = value.chars ++ (itemsAhead false values ++ ']' :: tail) ∧
              2 * begun.rest.length < fuel := by
        cases isFirst with
        | true =>
            have whole : cur.rest = value.chars ++ (itemsAhead false values ++ ']' :: tail) :=
              here.trans written
            rw [starts, List.cons_append] at whole
            refine ⟨cur, itemsAt_first fuel depth cur c _ whole solid inside, ?_, by omega⟩
            rw [whole, starts, List.cons_append]
        | false =>
            have whole : cur.rest = ',' :: (value.chars ++ (itemsAhead false values ++ ']' :: tail)) :=
              here.trans (congrArg (',' :: ·) written)
            rw [starts, List.cons_append] at whole
            refine ⟨_, itemsAt_next fuel depth cur c _ whole solid inside, ?_, ?_⟩
            · rw [Cursor.step_rest, starts, List.cons_append]
            · rw [whole, List.length_cons] at enough
              rw [Cursor.step_rest]
              omega
      obtain ⟨node, after, read, ends, denotes⟩ := back value List.mem_cons_self fuel begun _
        (itemsAhead_ends values tail) text size
      obtain ⟨items, last, others, behind, denote⟩ := ih
        (fun value member => own value (List.mem_cons_of_mem _ member))
        (fun value member => back value (List.mem_cons_of_mem _ member)) fuel false after ends (by
          rw [ends]
          rw [text, starts, List.cons_append, List.length_cons, List.length_append] at size
          omega)
      refine ⟨.more (some (surplusAt cur)) node items, last, ?_, behind,
        .more _ node value items values denotes denote⟩
      rw [Nat.succ_eq_add_one, same]
      unfold itemAt
      simp only [read, others]

theorem readsBack_array (depth : Nat) (values : List Value) (room : depth < depthLimit)
    (own : ∀ value ∈ values, value.StartsOwn) (back : ∀ value ∈ values, ReadsBack (depth + 1) value) :
    ReadsBack depth (.array values) := by
  intro fuel cur tail _ here enough
  obtain ⟨fuel, rfl⟩ := Nat.exists_eq_succ_of_ne_zero (Nat.ne_zero_of_lt enough)
  have ahead : itemsAhead true values = itemChars values := by
    cases values with
    | nil => rfl
    | cons first values => rfl
  have opened : cur.rest = '[' :: (itemsAhead true values ++ ']' :: tail) := by
    rw [here, Value.chars, ahead]
    simp
  rw [opened, List.length_cons] at enough
  obtain ⟨items, after, read, behind, denote⟩ := itemsAt_values (depth + 1) values tail own back
    fuel true (cur.step '[' _) (Cursor.step_rest _ _ _) (by rw [Cursor.step_rest]; omega)
  refine ⟨.array (some cur.place) none items, after, ?_, behind, .array _ _ _ denote⟩
  rw [Nat.succ_eq_add_one, nodeAt, Cursor.skipBlanks_at cur '[' _ opened rfl, opened]
  dsimp only
  rw [read, if_pos room]
  rfl

/-! ## Whole texts -/

theorem ofChars_printed (value : Value) (back : ReadsBack 0 value) :
    ∃ node, Document.ofChars value.chars = ⟨node, none⟩ ∧ node.Denotes value := by
  obtain ⟨node, after, read, behind, denotes⟩ := back (2 * value.chars.length + 2)
    (.start value.chars) [] .nothing (List.append_nil _).symm (by simp only [Cursor.start]; omega)
  have ended : after.skipBlanks.rest = [] := by
    unfold Cursor.skipBlanks
    rw [behind]
    exact behind
  refine ⟨node, ?_, denotes⟩
  simp only [Document.ofChars, read, Option.bind_some, ended, List.isEmpty_nil, if_true]

theorem Members.insert_fresh (name : String) (value : Value) (members : Members)
    (fresh : name ∉ members.names) : members.insert name value = members ++ [(name, value)] := by
  induction members with
  | nil => rfl
  | cons member members ih =>
      obtain ⟨key, old⟩ := member
      have other : key ≠ name := by
        rintro rfl
        exact fresh List.mem_cons_self
      rw [insert, if_neg other, ih fun inside => fresh (List.mem_cons_of_mem _ inside)]
      rfl

theorem Members.ofList_distinct (members : Members) (distinct : members.names.Nodup) :
    Members.ofList members = members := by
  have from_start : ∀ start : Members, (names (start ++ members)).Nodup →
      members.foldl (fun members pair => insert pair.1 pair.2 members) start = start ++ members := by
    clear distinct
    induction members with
    | nil => exact fun start _ => (List.append_nil start).symm
    | cons member members ih =>
        obtain ⟨name, value⟩ := member
        intro start distinct
        have fresh : name ∉ names start := by
          intro inside
          rw [names, List.map_append, List.map_cons] at distinct
          exact (List.nodup_append.mp distinct).2.2 name inside name List.mem_cons_self rfl
        have again : start ++ (name, value) :: members = start ++ [(name, value)] ++ members := by
          simp
        rw [List.foldl_cons, insert_fresh name value start fresh, again]
        rw [again] at distinct
        exact ih _ distinct
  exact from_start [] distinct

mutual

theorem Node.Denotes.value_ok : ∀ {node : Node} {value : Value}, node.Denotes value →
    node.value = .ok value
  | _, _, .null _ _ => rfl
  | _, _, .bool _ _ _ => rfl
  | _, _, .number _ _ _ => rfl
  | _, _, .string _ _ _ => rfl
  | _, _, .object first entries members distinct each => by
      rw [Node.value, each.values_ok]
      simp only [Except.map, Members.ofList_distinct members distinct]
  | _, _, .array first items values each => by
      rw [Node.value, each.values_ok 0]
      rfl

theorem Items.Denote.values_ok : ∀ {items : Items} {values : List Value}, items.Denote values →
    ∀ index, items.values index = .ok values
  | _, _, .done _, _ => rfl
  | _, _, .more surplus node value rest values first others, index => by
      rw [Items.values, first.value_ok, others.values_ok (index + 1)]
      rfl

theorem Entries.Denote.values_ok : ∀ {entries : Entries} {members : Members},
    entries.Denote members → entries.values = .ok members
  | _, _, .done _ => rfl
  | _, _, .more name after node value rest members first others => by
      rw [Entries.values, first.value_ok, others.values_ok]
      rfl

end

/-! ## Records -/

theorem Members.get?_first (name : String) (value : Value) (rest : Members) :
    Members.get? name ((name, value) :: rest) = some value := if_pos rfl

theorem Members.get?_behind (name key : String) (value : Value) (rest : Members) (other : key ≠ name) :
    Members.get? name ((key, value) :: rest) = rest.get? name := if_neg other

theorem Members.get?_absent (name : String) (members : Members) (absent : name ∉ members.names) :
    members.get? name = none := by
  induction members with
  | nil => rfl
  | cons member members ih =>
      obtain ⟨key, value⟩ := member
      have other : key ≠ name := by
        rintro rfl
        exact absent List.mem_cons_self
      rw [get?, if_neg other, ih fun inside => absent (List.mem_cons_of_mem _ inside)]

theorem Members.get?_member (name : String) (value : Value) (members : Members)
    (distinct : members.names.Nodup) (inside : (name, value) ∈ members) :
    members.get? name = some value := by
  induction members with
  | nil => cases inside
  | cons first rest ih =>
      obtain ⟨key, old⟩ := first
      obtain ⟨fresh, distinct⟩ := List.nodup_cons.mp distinct
      rcases List.mem_cons.mp inside with same | later
      · cases same
        exact if_pos rfl
      · have other : key ≠ name := by
          rintro rfl
          exact fresh (List.mem_map.mpr ⟨_, later, rfl⟩)
        rw [get?, if_neg other]
        exact ih distinct later

theorem map_ok (result : Except ε α) (f : α → β) (value : β) (read : result.map f = .ok value) :
    ∃ inner, result = .ok inner ∧ f inner = value := by
  cases result with
  | error e => cases read
  | ok inner => exact ⟨inner, rfl, Except.ok.inj read⟩

theorem mapError_ok (result : Except ε α) (f : ε → δ) (value : α) :
    result.mapError f = .ok value ↔ result = .ok value := by
  cases result with
  | error e => exact ⟨nofun, nofun⟩
  | ok found => exact ⟨fun same => by cases same; rfl, fun same => by cases same; rfl⟩

theorem located_ok (value : α) : located (.ok value) = .ok value := rfl

end AccessGate.Json
