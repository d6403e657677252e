import AccessGate.Proofs.Relay
import AccessGate.Proofs.Url.Marks

/-!
The chain of addresses that a request came by. The chain is told by all of its fields together, and the
gate goes on with the first one only.
-/

namespace AccessGate

/-! ## Addresses in full -/

namespace Net.Address

/-- An address with all of its parts. -/
def IsWhole : Address → Prop
  | v4 octets => octets.length = 4
  | v6 groups => groups.length = 8

theorem compressed_ne_nil (groups : Groups) (some_ : groups ≠ []) : compressed groups ≠ [] := by
  unfold compressed
  dsimp only
  split
  · simp
  · cases groups with
    | nil => exact absurd rfl some_
    | cons group groups => exact Url.DomainName.intercalate_ne_nil ':' _ _ Nat.toDigits_ne_nil

theorem render_chars (address : Address) :
    ∀ c ∈ address.render, c ∈ ".:0123456789abcdef".toList := by
  have decimal : ∀ octets c, c ∈ dotted octets → c ∈ ".:0123456789abcdef".toList := by
    intro octets c member
    rcases Url.dotted_chars octets c member with rfl | digit
    · decide
    · have range := Text.alphanum_range c (by simp [Char.isAlphanum, digit])
      exact Text.of_ascii (fun c => c.isDigit = true → c ∈ ".:0123456789abcdef".toList) (by decide) c
        (by omega) digit
  have mapped : ∀ c ∈ "::ffff:".toList, c ∈ ".:0123456789abcdef".toList :=
    Text.each_of_all _ _ (by decide)
  intro c member
  unfold render at member
  split at member
  · exact decimal _ c member
  · rcases List.mem_append.mp member with front | back
    · exact mapped c front
    · exact decimal _ c back
  · exact List.mem_cons_of_mem _ (Url.compressed_chars _ c member)

theorem IsWhole.render_ne_nil {address : Address} (whole : address.IsWhole) : address.render ≠ [] := by
  unfold render
  split
  · rename_i octets
    have four : octets.length = 4 := whole
    exact Url.dotted_ne_nil octets (List.ne_nil_of_length_pos (by omega))
  · simp
  · rename_i groups _
    have eight : groups.length = 8 := whole
    exact compressed_ne_nil groups (List.ne_nil_of_length_pos (by omega))

end Net.Address

namespace Proxy

open Text (pieces)
open Http (Headers)

/-! ## Entries -/

/-- The blanks that may stand around an entry. -/
def isPad (c : Char) : Bool := c == ' ' || c == '\t'

def unpadded (cs : List Char) : List Char := ((cs.dropWhile isPad).reverse.dropWhile isPad).reverse

/-- The entries of a list with commas; nothing between two commas is no entry. -/
def entries (text : List Char) : List (List Char) :=
  ((pieces ',' text).map unpadded).filter (!·.isEmpty)

-- Everything about entries follows from here.
theorem entries_append (front rest : List Char) :
    entries (front ++ ',' :: rest) = entries front ++ entries rest := by
  rw [entries, Text.pieces_append_mark, List.map_append, List.filter_append]
  rfl

theorem entries_unmarked (text : List Char) (unmarked : ',' ∉ text) :
    entries text = [unpadded text].filter (!·.isEmpty) := by
  rw [entries, Text.pieces_unmarked ',' text unmarked]
  rfl

theorem mem_dropWhile_pads (text : List Char) (c : Char) (member : c ∈ text) (solid : isPad c = false) :
    c ∈ text.dropWhile isPad := by
  rw [← List.takeWhile_append_dropWhile (p := isPad) (l := text)] at member
  rcases List.mem_append.mp member with lead | kept
  · cases solid.symm.trans (Text.mem_takeWhile isPad text c lead)
  · exact kept

theorem mem_unpadded (text : List Char) (c : Char) (member : c ∈ text) (solid : isPad c = false) :
    c ∈ unpadded text := by
  apply List.mem_reverse.mpr
  apply mem_dropWhile_pads _ c _ solid
  exact List.mem_reverse.mpr (mem_dropWhile_pads text c member solid)

theorem unpadded_plain (text : List Char) (plain : ∀ c ∈ text, isPad c = false) :
    unpadded text = text := by
  have start : text.dropWhile isPad = text := by
    apply Text.dropWhile_all isPad [] text (by simp)
    exact fun c first => plain c (List.mem_of_mem_head? first)
  have last : text.reverse.dropWhile isPad = text.reverse := by
    apply Text.dropWhile_all isPad [] text.reverse (by simp)
    exact fun c first => plain c (List.mem_reverse.mp (List.mem_of_mem_head? first))
  rw [unpadded, start, last, List.reverse_reverse]

theorem entries_single (text : List Char) (some_ : text ≠ []) (unmarked : ',' ∉ text)
    (plain : ∀ c ∈ text, isPad c = false) : entries text = [text] := by
  rw [entries_unmarked text unmarked, unpadded_plain text plain]
  simp [some_]

theorem entries_pad (c : Char) (rest : List Char) (pad : isPad c = true) :
    entries (c :: rest) = entries rest := by
  have other : c ≠ ',' := by
    rintro rfl
    cases pad
  simp only [entries, pieces, if_neg other]
  cases cut : pieces ',' rest with
  | nil => exact absurd cut (Text.pieces_some ',' rest)
  | cons first others =>
      have same : unpadded (c :: first) = unpadded first := by
        rw [unpadded, List.dropWhile_cons_of_pos pad, unpadded]
      rw [List.map_cons, List.map_cons, same]

theorem entries_pads (text : List Char) (pads : ∀ c ∈ text, isPad c = true) : entries text = [] := by
  induction text with
  | nil => rfl
  | cons c text ih =>
      rw [entries_pad c text (pads c List.mem_cons_self)]
      exact ih fun d member => pads d (List.mem_cons_of_mem c member)

theorem entries_ne_nil (text : List Char) (c : Char) (member : c ∈ text) (other : c ≠ ',')
    (solid : isPad c = false) : entries text ≠ [] := by
  obtain ⟨piece, inside, there⟩ := Url.V6.mem_pieces ',' c text member other
  have kept := mem_unpadded piece c there solid
  have entry : unpadded piece ∈ entries text := by
    apply List.mem_filter.mpr
    refine ⟨List.mem_map_of_mem inside, ?_⟩
    simp [List.ne_nil_of_mem kept]
  exact List.ne_nil_of_mem entry

/-! ## Values -/

/-- The octets of a value, a character each. -/
def characters (value : Http.Octets) : List Char := value.map fun b => Char.ofNat b.toNat

theorem textual_some (value : Http.Octets) (text : List Char)
    (textual : Http.textual? value = some text) :
    text = characters value ∧ value.all Http.isTextOctet = true := by
  unfold Http.textual? at textual
  split at textual
  · rename_i known
    cases textual
    exact ⟨rfl, known⟩
  · cases textual

theorem of_octets (p : UInt8 → Prop) (table : ∀ n : Fin 256, p (UInt8.ofNat n)) (b : UInt8) : p b := by
  have known := table ⟨b.toNat, b.toNat_lt⟩
  rwa [UInt8.ofNat_toNat] at known

theorem characters_text (value : Http.Octets) (textual : value.all Http.isTextOctet = true) :
    ∀ c ∈ characters value, c.toNat < 0x80 ∧ (Text.isBlank c = true → isPad c = true) := by
  have table := of_octets
    (fun b => Http.isTextOctet b = true → (Char.ofNat b.toNat).toNat < 0x80 ∧
      (Text.isBlank (Char.ofNat b.toNat) = true → isPad (Char.ofNat b.toNat) = true))
    (by decide +kernel)
  intro c member
  obtain ⟨b, inside, rfl⟩ := List.mem_map.mp member
  exact table b (List.all_eq_true.mp textual b inside)

theorem entries_untextual (value : Http.Octets) (untextual : Http.textual? value = none) :
    entries (characters value) ≠ [] := by
  have table := of_octets
    (fun b => Http.isTextOctet b = false →
      Char.ofNat b.toNat ≠ ',' ∧ isPad (Char.ofNat b.toNat) = false)
    (by decide +kernel)
  unfold Http.textual? at untextual
  split at untextual
  · cases untextual
  · rename_i strange
    obtain ⟨b, inside, other⟩ : ∃ b ∈ value, Http.isTextOctet b = false := by
      simpa using strange
    obtain ⟨apart, solid⟩ := table b other
    exact entries_ne_nil _ _ (List.mem_map_of_mem inside) apart solid

theorem characters_encode (text : List Char) (ascii : ∀ c ∈ text, c.toNat < 0x80) :
    characters (Utf8.encode text) = text := by
  induction text with
  | nil => rfl
  | cons c text ih =>
      have small := ascii c List.mem_cons_self
      have tail := ih fun d member => ascii d (List.mem_cons_of_mem c member)
      have first : Char.ofNat (UInt8.ofNat c.toNat).toNat = c :=
        Text.of_ascii (fun c => Char.ofNat (UInt8.ofNat c.toNat).toNat = c) (by decide) c small
      unfold Utf8.encode characters at tail ⊢
      rw [List.flatMap_cons, Utf8.encodeChar_ascii c small, List.singleton_append, List.map_cons, first,
        tail]

/-! ## The chain -/

/-- The chain that fields tell, over all of its lines. -/
def chain (headers : Headers) : List (List Char) :=
  (headers.getAll "x-forwarded-for").flatMap fun value => entries (characters value)

/-- What of a chain is gone on with: the first line, if that is text. -/
def opening (headers : Headers) : List (List Char) :=
  match headers.getAll "x-forwarded-for" with
  | [] => []
  | first :: _ => ((Http.textual? first).map entries).getD []

/-- Lines of which only the first has entries, and that is text. -/
def SingleLine (lines : List Http.Octets) : Prop :=
  ∀ first rest, lines = first :: rest →
    (Http.textual? first).isSome = true ∧ ∀ value ∈ rest, entries (characters value) = []

theorem chain_of_line (headers : Headers) (line : Http.Octets)
    (only : headers.getAll "x-forwarded-for" = [line]) :
    chain headers = entries (characters line) := by
  rw [chain, only, List.flatMap_cons, List.flatMap_nil, List.append_nil]

-- A line of blanks has no entries, so that it makes no difference that it is not gone on with.
theorem chain_withForwardedFor (headers : Headers) (address : List Char)
    (single : entries address = [address]) (ascii : ∀ c ∈ address, c.toNat < 0x80) :
    chain (withForwardedFor headers address) = opening headers ++ [address] := by
  have line (text : List Char) (plain : ∀ c ∈ text, c.toNat < 0x80) :
      chain (headers.insert "x-forwarded-for" (Utf8.encode text)) = entries text := by
    rw [chain_of_line _ _ (by rw [Headers.getAll_insert, if_pos rfl]), characters_encode text plain]
  unfold withForwardedFor opening
  rw [Headers.text?_eq]
  cases headers.getAll "x-forwarded-for" with
  | nil => exact (line address ascii).trans single
  | cons first rest =>
      cases textual : Http.textual? first with
      | none =>
          simp only [List.head?_cons, Option.bind_some, textual]
          exact (line address ascii).trans single
      | some prior =>
          obtain ⟨rfl, known⟩ := textual_some first prior textual
          have small := characters_text first known
          simp only [List.head?_cons, Option.bind_some, textual]
          by_cases blank : Text.isBlankText (characters first) = true
          · have pads : ∀ c ∈ characters first, isPad c = true :=
              fun c member => (small c member).2 (List.all_eq_true.mp blank c member)
            have nothing : ((some (characters first)).map entries).getD [] = [] := entries_pads _ pads
            rw [if_pos blank, nothing]
            exact (line address ascii).trans single
          · have joined : characters first ++ ", ".toList ++ address =
                characters first ++ ',' :: ' ' :: address := by simp
            rw [if_neg blank, joined, line, entries_append, entries_pad ' ' address rfl, single]
            · rfl
            · intro c member
              simp only [List.mem_append, List.mem_cons] at member
              rcases member with front | rfl | rfl | back
              · exact (small c front).1
              · decide
              · decide
              · exact ascii c back

theorem opening_eq_chain_iff (headers : Headers) :
    opening headers = chain headers ↔ SingleLine (headers.getAll "x-forwarded-for") := by
  unfold opening chain
  cases headers.getAll "x-forwarded-for" with
  | nil => exact iff_of_true rfl nofun
  | cons first rest =>
      have lines : SingleLine (first :: rest) ↔
          (Http.textual? first).isSome = true ∧ ∀ value ∈ rest, entries (characters value) = [] := by
        constructor
        · exact fun known => known first rest rfl
        · rintro known _ _ ⟨⟩
          exact known
      rw [lines, List.flatMap_cons]
      cases textual : Http.textual? first with
      | none =>
          have lost := entries_untextual first textual
          simp [textual, lost]
      | some prior =>
          obtain ⟨rfl, -⟩ := textual_some first prior textual
          simp [textual, List.flatMap_eq_nil_iff]

/-! ## What the backend is told -/

theorem getAll_withHeaders (request : Http.Outgoing) (headers : Headers) (name : String)
    (bare : request.headers.getAll name = []) :
    (request.withHeaders headers).headers.getAll name = headers.getAll name := by
  have kept := getAll_filter (fun name => !headers.contains name) request.headers name
  rw [bare, ite_self] at kept
  have parts : (request.withHeaders headers).headers.getAll name =
      Headers.getAll name (request.headers.filter fun field => !headers.contains field.1) ++
        headers.getAll name := by
    simp [Http.Outgoing.withHeaders, Headers.getAll]
  rw [parts, kept, List.nil_append]

theorem Relayed.forwardedFor {target : Http.Target} {incoming : Http.Incoming} {credential : Option String}
    {seen : List Exchange} {response : Http.Response}
    (relayed : Relayed target incoming credential seen response) :
    ∀ exchange ∈ seen, ∃ headers, forwardedHeaders incoming credential = .ok headers ∧
      exchange.request.headers.getAll "x-forwarded-for" = headers.getAll "x-forwarded-for" := by
  cases relayed with
  | unfit denial failed => exact nofun
  | fit request built seen answer asked =>
      obtain ⟨headers, bare, fields, -, read, rfl⟩ := (outgoing_iff _ _ _ _).mp built
      obtain ⟨url, -, -, rfl⟩ := (ofText_iff _ _ _).mp read
      -- Whoever the URL names, that is told in another field.
      have told : ∀ bare : Http.Outgoing, bare.headers =
          (if url.userInfo.isEmpty then [] else [("authorization", Http.Outgoing.basicValue url)]) →
          (bare.withHeaders headers).headers.getAll "x-forwarded-for" =
            headers.getAll "x-forwarded-for" := by
        intro bare own
        apply getAll_withHeaders
        rw [own]
        split <;> rfl
      intro exchange member
      refine ⟨headers, fields, ?_⟩
      cases asked with
      | unaskable other => cases member
      | unanswered askable =>
          cases List.mem_singleton.mp member
          rw [Http.Outgoing.getAll_completed _ _ (by decide)]
          exact told _ rfl
      | answered askable reply =>
          cases List.mem_singleton.mp member
          rw [Http.Outgoing.getAll_completed _ _ (by decide)]
          exact told _ rfl

theorem chain_render (headers : Headers) (address : Net.Address) (whole : address.IsWhole) :
    chain (withForwardedFor headers address.render) = opening headers ++ [address.render] := by
  have table : ∀ c ∈ ".:0123456789abcdef".toList, c ≠ ',' ∧ isPad c = false ∧ c.toNat < 0x80 :=
    Text.each_of_all _ _ (by decide)
  have signs (c : Char) (member : c ∈ address.render) := table c (address.render_chars c member)
  apply chain_withForwardedFor
  · apply entries_single _ whole.render_ne_nil
    · exact fun member => (signs ',' member).1 rfl
    · exact fun c member => (signs c member).2.1
  · exact fun c member => (signs c member).2.2

/-- The backend is told the chain of the caller's first line, if that is text, and then the peer. So
nothing of the chain is lost exactly when there is nothing in other lines, and nothing but text. -/
theorem address_chain_iff {σ : Type} (env : Environment σ) (target : Http.Target)
    (incoming : Http.Incoming) (credential : Option String) (s : σ)
    (unnamed : ¬ Nominated incoming.headers "x-forwarded-for")
    (whole : ∀ peer, incoming.peer = some peer → peer.address.IsWhole) :
    ∃ response after seen,
      (roundTrip env target incoming (some (.allowed credential))).run s = .ok (response, after) ∧
      (∀ log, (roundTrip env.observed target incoming (some (.allowed credential))).run (s, log) =
        .ok (response, (after, log ++ seen))) ∧
      ∀ exchange ∈ seen,
        (incoming.peer = none → exchange.request.headers.getAll "x-forwarded-for" =
          incoming.headers.getAll "x-forwarded-for") ∧
        ∀ peer, incoming.peer = some peer →
          chain exchange.request.headers = opening incoming.headers ++ [peer.address.render] ∧
          (chain exchange.request.headers = chain incoming.headers ++ [peer.address.render] ↔
            SingleLine (incoming.headers.getAll "x-forwarded-for")) := by
  obtain ⟨response, after, seen, relayed, plain, observed⟩ :=
    roundTrip_observed env target incoming credential s
  refine ⟨response, after, seen, plain, observed, fun exchange member => ?_⟩
  obtain ⟨headers, fields, told⟩ := relayed.forwardedFor exchange member
  obtain ⟨front, rfl, fronted⟩ := forwardedHeaders_fronted incoming credential headers fields
  have kept := fronted.others "x-forwarded-for" (by decide) (by decide)
  rw [if_neg (mt (connectionScoped_iff _ _ (by decide)).mp unnamed)] at kept
  constructor
  · intro alone
    rw [told, alone]
    exact kept
  · intro peer from_
    have gone : chain exchange.request.headers = opening incoming.headers ++ [peer.address.render] := by
      have added := chain_render front peer.address (whole peer from_)
      rw [chain, told, from_]
      rw [opening, kept] at added
      exact added
    refine ⟨gone, ?_⟩
    rw [gone, List.append_left_inj, opening_eq_chain_iff]

/-- A call that came by some addresses, from a peer of its own. -/
def chainedCall (lines : List String) : Http.Incoming :=
  ⟨.get, backTarget, lines.map fun line => ("x-forwarded-for", Utf8.encode line.toList),
    some ⟨.v4 [10, 0, 0, 1], 80⟩, []⟩

theorem address_chain_single :
    ¬ Nominated (chainedCall ["1.1.1.1, 2.2.2.2"]).headers "x-forwarded-for" ∧
      Net.Address.IsWhole (.v4 [10, 0, 0, 1]) ∧
      ∃ response exchange,
        (roundTrip answering.observed backTarget (chainedCall ["1.1.1.1, 2.2.2.2"])
          (some (.allowed none))).run ((), []) = .ok (response, ((), [exchange])) ∧
        chain exchange.request.headers =
          chain (chainedCall ["1.1.1.1, 2.2.2.2"]).headers ++ ["10.0.0.1".toList] := by
  have unnamed : ¬ Nominated (chainedCall ["1.1.1.1, 2.2.2.2"]).headers "x-forwarded-for" := by
    decide +kernel
  have whole : Net.Address.IsWhole (.v4 [10, 0, 0, 1]) := rfl
  obtain ⟨response, exchange, ran⟩ : ∃ response exchange,
      (roundTrip answering.observed backTarget (chainedCall ["1.1.1.1, 2.2.2.2"])
        (some (.allowed none))).run ((), []) = .ok (response, ((), [exchange])) := ⟨_, _, rfl⟩
  obtain ⟨_, _, seen, -, observed, told⟩ :=
    address_chain_iff answering backTarget (chainedCall ["1.1.1.1, 2.2.2.2"]) none () unnamed
      (by rintro _ ⟨⟩; exact whole)
  have same := ran.symm.trans (observed [])
  cases same
  obtain ⟨-, kept⟩ := told exchange (by simp)
  refine ⟨unnamed, whole, response, exchange, ran, (kept _ rfl).2.mpr ?_⟩
  rintro _ _ ⟨⟩
  exact ⟨by decide +kernel, nofun⟩

/-- The second line of a chain is lost. -/
theorem address_chain_shortened :
    ¬ Nominated (chainedCall ["1.1.1.1", "2.2.2.2"]).headers "x-forwarded-for" ∧
      ∃ response exchange,
        (roundTrip answering.observed backTarget (chainedCall ["1.1.1.1", "2.2.2.2"])
          (some (.allowed none))).run ((), []) = .ok (response, ((), [exchange])) ∧
        chain exchange.request.headers = ["1.1.1.1".toList, "10.0.0.1".toList] ∧
        chain exchange.request.headers ≠
          chain (chainedCall ["1.1.1.1", "2.2.2.2"]).headers ++ ["10.0.0.1".toList] := by
  refine ⟨by decide +kernel, ?_⟩
  exact ⟨_, _, rfl, by decide +kernel, by decide +kernel⟩

end Proxy

end AccessGate
