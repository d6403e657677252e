import AccessGate.Proofs.Url.Address

/-!
Addresses with the authority that a URL itself has. Such a text is read as the address of the URL exactly
when the host is read back from its own text.
-/

namespace AccessGate.Url

open Hosted (portText portText_chars portText_ahead)

/-! ## Hosts and ports as they are written -/

theorem isSolid_of_inName (c : Char) (inName : DomainName.InName c) : isSolid c = true := by
  have free := inName.2
  simp only [DomainName.isForbidden, Bool.or_eq_false_iff, decide_eq_false_iff_not] at free
  simp only [isSolid, decide_eq_true_eq]
  omega

theorem address_solid (groups : Net.Groups) :
    (Host.address (.v6 groups)).render.all isSolid = true := by
  have table : ∀ c ∈ ":0123456789abcdef".toList, isSolid c = true :=
    Text.each_of_all ":0123456789abcdef".toList _ (by decide)
  rw [List.all_eq_true]
  intro c member
  simp only [Host.render, List.cons_append, List.mem_cons, List.mem_append, List.not_mem_nil,
    or_false] at member
  rcases member with rfl | inner | rfl
  · decide
  · exact table c (compressed_chars groups c inner)
  · decide

theorem opaque_chars (cs : List Char) (free : cs.any Host.isForbidden = false) :
    ∀ c ∈ Percent.encode Host.isControl cs, isSolid c = true ∧ c ∉ hostMarks := by
  have signs : ∀ c ∈ Percent.signs, isSolid c = true ∧ c ∉ hostMarks :=
    Text.each_of_all Percent.signs _ (by decide)
  have marks : ∀ c ∈ ' ' :: hostMarks, Host.isForbidden c = true :=
    Text.each_of_all (' ' :: hostMarks) _ (by decide)
  intro c member
  rcases Percent.mem_encode _ cs c member with ⟨inside, -, plain⟩ | sign
  · have unmarked : c ∉ ' ' :: hostMarks := by
      intro marked
      have forbidden := List.any_eq_true.mpr ⟨c, inside, marks c marked⟩
      rw [free] at forbidden
      cases forbidden
    rw [List.mem_cons, not_or] at unmarked
    refine ⟨?_, unmarked.2⟩
    have unblank : c.toNat ≠ 0x20 := fun blank => unmarked.1 (Char.toNat_inj.mp blank)
    simp only [Host.isControl, Bool.or_eq_false_iff, decide_eq_false_iff_not] at plain
    simp only [isSolid, decide_eq_true_eq]
    omega
  · exact signs c sign

theorem encode_eq_nil (escaped : Char → Bool) (cs : List Char) (nothing : Percent.encode escaped cs = []) :
    cs = [] := by
  cases cs with
  | nil => rfl
  | cons c cs =>
      have first : Percent.encodeChar escaped c = [] :=
        (List.append_eq_nil_iff.mp ((List.flatMap_cons).symm.trans nothing)).1
      unfold Percent.encodeChar at first
      split at first
      · cases first
      · have octets := String.length_utf8EncodeChar c
        have size := c.utf8Size_pos
        cases shape : String.utf8EncodeChar c with
        | nil => simp [shape] at octets; omega
        | cons b rest =>
            rw [shape] at first
            cases first

theorem render_of_read (special : Bool) (cs : List Char) (host : Host)
    (read : Host.readIn special cs = .ok host) :
    host.render.all isSolid = true ∧
      (HostText host.render ∨ special = false ∧ cs = [] ∧ host.render = []) := by
  cases special with
  | true =>
      have parsed : Host.parse cs = .ok host := read
      refine ⟨?_, .inl (hostText_of_parse cs host parsed)⟩
      rcases parse_kinds cs host parsed with ⟨groups, rfl⟩ | ⟨-, plain⟩
      · exact address_solid groups
      · exact List.all_eq_true.mpr fun c member => isSolid_of_inName c (plain c member)
  | false =>
      have parsed : Host.parseOpaque cs = .ok host := read
      unfold Host.parseOpaque at parsed
      split at parsed
      · obtain ⟨-, groups, -, -, rfl⟩ := bracketed_ok _ host parsed
        exact ⟨address_solid groups, .inl (hostText_address groups)⟩
      · split at parsed
        · cases parsed
        · rename_i free
          cases parsed
          have chars := opaque_chars cs (Bool.eq_false_iff.mpr free)
          refine ⟨List.all_eq_true.mpr fun c member => (chars c member).1, ?_⟩
          by_cases named : Percent.encode Host.isControl cs = []
          · exact .inr ⟨rfl, encode_eq_nil _ cs named, named⟩
          · exact .inl (hostText_unmarked _ named fun c member => (chars c member).2)

/-! ## The authority of a URL -/

theorem portText_solid (port : Option Nat) : (portText port).all isSolid = true := by
  cases port with
  | none => rfl
  | some port =>
      rw [portText, List.all_cons, Bool.and_eq_true]
      refine ⟨by decide, List.all_eq_true.mpr fun c member => isSolid_of_scheme c ?_⟩
      simp [isSchemeChar, Char.isAlphanum, Text.natText_digits port c member]

theorem HostText.plain {text : List Char} (host : HostText text) (solid : text.all isSolid = true)
    (special : Bool) (port : Option Nat) : Plain special (text ++ portText port) := by
  obtain ⟨inside, free⟩ := portText_chars port
  refine ⟨?_, List.not_mem_append host.no_user free, ?_, ?_⟩
  · intro c member
    rcases List.mem_append.mp member with first | second
    · exact host.inside c first
    · exact inside c second
  · rw [List.all_append, solid, portText_solid]
    rfl
  · intro _ nothing
    exact host.named (List.append_eq_nil_iff.mp nothing).1

/-- The authority of a URL as it is made of a host and a port that were read. -/
structure Own (special : Bool) (a : List Char) (host : Host) (port : Option Nat) : Prop where
  plain : Plain special a
  asked : asked special a = (Host.readIn special host.render).map fun found => (found, port)

theorem own_of_read (special : Bool) (b d e : List Char) (host : Host) (port kept : Option Nat)
    (named : splitHost special b = .ok (host, d)) (ported : portAhead d = .ok (port, e))
    (keeps : ∀ n, kept = some n → port = some n) :
    Own special (host.render ++ portText kept) host kept := by
  have fits : ∀ n, kept = some n → n ≤ 65535 :=
    fun n held => portAhead_fits d e port ported n (keeps n held)
  obtain ⟨read, -, unnamed⟩ := splitHost_ok special b d host named
  obtain ⟨solid, text | ⟨rfl, nothing, blank⟩⟩ := render_of_read special _ host read
  · obtain ⟨stop, again⟩ := portText_ahead special kept fits
    exact ⟨text.plain solid special kept, text.asked_append special _ kept stop again⟩
  · have portless : port = none := by
      have uncoloned := (unnamed nothing).2
      rw [portAhead_none d fun rest same => uncoloned (by rw [same]; rfl)] at ported
      cases ported
      rfl
    have nothingKept : kept = none := by
      cases kept with
      | none => rfl
      | some n =>
          rw [keeps n rfl] at portless
          cases portless
    subst nothingKept
    refine ⟨?_, by rw [blank]; rfl⟩
    rw [blank]
    exact ⟨List.forall_mem_nil _, List.not_mem_nil, rfl, fun never => by cases never⟩

theorem placed_own_iff (raw cs behind : List Char) (place : Place) (bare : isBare raw = true)
    (unfiled : isFile (Text.lower raw) = false)
    (read : placeAhead (isSpecial (Text.lower raw)) cs = .ok (place, behind)) :
    let url := placed (Text.lower raw) place behind
    url.AddressedBy (url.scheme ++ "://".toList ++ url.authority ++ url.path) ↔
      ∃ host, url.host = some host ∧ Host.readIn (isSpecial url.scheme) url.hostText = .ok host := by
  intro url
  obtain ⟨b, d, -, named, ported⟩ := place_ok _ (splitCredentials _ cs) place behind read
  have own := own_of_read _ b d behind place.host place.port (keptPort (Text.lower raw) place.port) named
    ported fun n held => (Option.filter_eq_some_iff.mp held).1
  obtain ⟨list, segments, text⟩ := addressText_of_placed raw behind _ place bare unfiled own.plain
  have authority : url.authority = place.host.render ++ portText url.port :=
    Hosted.authority_of_host rfl
  rw [authority]
  exact text.addressedBy_read_iff segments place.host.render url.port (keptPort_twice _ _).symm own.asked

theorem not_addressedBy_hostless (raw rest : List Char) (url : Url) (bare : isBare raw = true)
    (unspecial : isSpecial (Text.lower raw) = false) (named : url.scheme = Text.lower raw)
    (nobody : url.host = none) : ¬ url.AddressedBy (url.scheme ++ "://".toList ++ rest) := by
  rintro ⟨other, read, same⟩
  have unfiled : isFile (Text.lower raw) = false := by
    simp only [isSpecial, Bool.or_eq_false_iff] at unspecial
    exact unspecial.2
  obtain ⟨lowBare, lowered⟩ := isBare_lower raw bare
  rw [named] at read
  exact parse_slashed_host _ rest other lowBare lowered unfiled unspecial read (same.host.trans nobody)

/-- A URL that is not one of files is read back from scheme, authority and path exactly when it has a host
and that host is read back from its own text. -/
theorem addressedBy_own_iff (text : List Char) (url : Url) (read : parse text = .ok url)
    (unfiled : isFile url.scheme = false) :
    url.AddressedBy (url.scheme ++ "://".toList ++ url.authority ++ url.path) ↔
      ∃ host, url.host = some host ∧ Host.readIn (isSpecial url.scheme) url.hostText = .ok host := by
  obtain ⟨raw, rest, -, bare, behind⟩ := parse_behind text url read unfiled
  rw [behind.scheme_eq] at unfiled
  cases behind with
  | special rest behind place special found =>
      exact placed_own_iff raw _ behind place bare unfiled (by rw [special]; exact found)
  | plain rest behind place unspecial found =>
      exact placed_own_iff raw _ behind place bare unfiled (by rw [unspecial]; exact found)
  | hostless rest url unspecial unslashed named nobody =>
      rw [List.append_assoc (_ ++ _)]
      apply iff_of_false (not_addressedBy_hostless raw _ url bare unspecial named nobody)
      rintro ⟨host, hosted, -⟩
      rw [nobody] at hosted
      cases hosted

end AccessGate.Url
