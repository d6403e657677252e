import AccessGate.Proofs.Base64
import AccessGate.Proofs.Json.RoundTrip
import AccessGate.Proofs.OpenGate
import AccessGate.Proofs.PublishedKey

/-!
Tokens of a shared secret. All claims are signed, under every secret that is long enough. The text of a token
has three parts, which say the header, the claims and the signature of both, and who has the secret reads the
claims back from it.
-/

namespace AccessGate

open Json

variable {σ : Type}

/-! ## The compact form -/

theorem Base64.pointless (octets : Http.Octets) : '.' ∉ encodeUrl octets := by
  intro inside
  exact absurd (encodeUrl_digits octets '.' inside) (by decide)

namespace Token

theorem pieces_chars (token : Token) : Text.pieces '.' token.chars =
    [segment token.header, segment token.claims, Base64.encodeUrl token.signature] := by
  have alone : ∀ octets, Text.pieces '.' (Base64.encodeUrl octets) = [Base64.encodeUrl octets] :=
    fun octets => Text.pieces_unmarked _ _ (Base64.pointless octets)
  rw [chars, Text.pieces_append_mark, signedText, Text.pieces_append_mark]
  unfold segment
  rw [alone, alone, alone]
  rfl

theorem signedPart_chars (token : Token) :
    signedPart token.chars = signedText token.header token.claims := by
  have clear : ∀ c ∈ (Base64.encodeUrl token.signature).reverse, (c != '.') = true := by
    intro c inside
    rw [bne_iff_ne]
    rintro rfl
    exact Base64.pointless _ (List.mem_reverse.mp inside)
  unfold signedPart chars
  rw [List.reverse_append, List.reverse_cons, List.append_assoc,
    Text.dropWhile_all _ _ _ clear fun c first => by cases first; rfl]
  simp

theorem members_segment (members : Members) : members? (segment members) =
    (Json.parse (Value.object members).chars).toOption.bind Value.members? := by
  unfold members? segment
  rw [Base64.decodeUrl_encodeUrl]
  simp only [Option.bind_eq_bind, Option.bind_some, Utf8.decode_encode]
  cases Json.parse (Value.object members).chars with
  | error e => rfl
  | ok value => rfl

theorem members_segment_iff (members : Members) (exact : (Value.object members).Exact) :
    members? (segment members) = some members ↔ (Value.object members).depth ≤ depthLimit := by
  rw [members_segment, ← parse_chars_iff _ exact]
  cases Json.parse (Value.object members).chars with
  | error e => exact iff_of_false nofun nofun
  | ok value =>
      constructor
      · intro read
        cases value with
        | object found =>
            cases read
            rfl
        | _ => cases read
      · intro same
        cases same
        rfl

theorem parse_chars (token : Token) : parse? token.chars =
    (members? (segment token.header)).bind fun header =>
      (members? (segment token.claims)).bind fun claims => some ⟨header, claims, token.signature⟩ := by
  unfold parse?
  rw [pieces_chars]
  simp only [Base64.decodeUrl_encodeUrl, Option.bind_eq_bind, Option.bind_some, Option.pure_def]

end Token

/-! ## The key of a secret -/

/-- What signs with a secret. -/
def Jwk.Signer.ofSecret (secret : Http.Octets) (id : String) : Jwk.Signer :=
  ⟨.hs256, some id, Sha256.authenticate secret⟩

namespace SigningKey

theorem ofSecret_octets (secret : Http.Octets) (id : String) :
    (ofSecret secret id).privateKey.octets "k" = .ok secret := by
  have held : (ofSecret secret id).privateKey.members.get? "k" =
      some (.string (String.ofList (Base64.encodeUrl secret))) := rfl
  unfold Jwk.octets
  rw [held]
  simp only [String.toList_ofList, Base64.decodeUrl_encodeUrl]

theorem signer_ofSecret (secret : Http.Octets) (id : String) :
    (ofSecret secret id).privateKey.signer .hs256 = .ok (.ofSecret secret id) := by
  unfold Jwk.signer
  rw [ofSecret_octets]
  rfl

theorem sign_ofSecret (secret : Http.Octets) (id : String) (claims : Members) :
    (ofSecret secret id).sign claims = .ok (.issue id (.ofSecret secret id) claims) := by
  have fit : (ofSecret secret id).privateKey.signer (ofSecret secret id).algorithm =
      .ok (.ofSecret secret id) := signer_ofSecret secret id
  unfold sign
  rw [fit]
  rfl

end SigningKey

namespace Token

/-- The header of a token of a secret. -/
def secretHeader (id : String) : Members :=
  [("kid", .string id), ("alg", .string "HS256"), ("typ", .string "JWT")]

/-- The three parts of the text of a token: what the header says, the text of the claims, and the signature of
both under a secret. -/
structure Sealed (secret : Http.Octets) (id : String) (claims : Members) (text : List Char)
    (header payload signature : List Char) : Prop where
  joined : text = header ++ '.' :: (payload ++ '.' :: signature)
  pieces : Text.pieces '.' text = [header, payload, signature]
  digits : ∀ c ∈ header ++ payload ++ signature, Base64.isUrlDigit c = true
  labels : members? header = some (secretHeader id)
  claims : Base64.decodeUrl? payload = some (Utf8.encode (Value.object claims).chars)
  signed : Base64.decodeUrl? signature =
    some (Sha256.authenticate secret (Utf8.encode (header ++ '.' :: payload)))

theorem secretHeader_read (id : String) : members? (segment (secretHeader id)) = some (secretHeader id) := by
  have exact : (Value.object (secretHeader id)).Exact := by
    refine .object _ ?_ ?_
    · change ["kid", "alg", "typ"].Nodup
      decide
    · intro member inside
      simp only [secretHeader, List.mem_cons, List.not_mem_nil, or_false] at inside
      rcases inside with rfl | rfl | rfl
      all_goals exact .string _
  apply (members_segment_iff _ exact).mpr
  simp [Value.depth, membersDepth, secretHeader, depthLimit]

theorem sealed_issue (secret : Http.Octets) (id : String) (claims : Members) :
    Sealed secret id claims (issue id (.ofSecret secret id) claims).chars
      (segment (secretHeader id)) (segment claims)
      (Base64.encodeUrl (issue id (.ofSecret secret id) claims).signature) where
  joined := by
    rw [chars, signedText, List.append_assoc, List.cons_append]
    rfl
  pieces := pieces_chars _
  digits := by
    intro c inside
    rcases List.mem_append.mp inside with front | last
    · rcases List.mem_append.mp front with first | second
      · exact Base64.encodeUrl_digits _ c first
      · exact Base64.encodeUrl_digits _ c second
    · exact Base64.encodeUrl_digits _ c last
  labels := secretHeader_read id
  claims := Base64.decodeUrl_encodeUrl _
  signed := Base64.decodeUrl_encodeUrl _

theorem verifies_issue (secret : Http.Octets) (id : String) (claims : Members) :
    (SigningKey.ofSecret secret id).publicKey.verifies .hs256
      (Utf8.encode (signedText (secretHeader id) claims))
      (issue id (.ofSecret secret id) claims).signature = true := by
  have key : (SigningKey.ofSecret secret id).publicKey.octets "k" = .ok secret :=
    SigningKey.ofSecret_octets secret id
  unfold Jwk.verifies
  rw [key]
  exact beq_self_eq_true _

theorem verify_issue (secret : Http.Octets) (id : String) (claims : Members) :
    (verify? (SigningKey.ofSecret secret id).publicKey .hs256
      (issue id (.ofSecret secret id) claims).chars).map Token.claims = members? (segment claims) := by
  have valid := verifies_issue secret id claims
  unfold verify?
  rw [parse_chars, signedPart_chars]
  change Option.map _ (Option.filter _ ((members? (segment (secretHeader id))).bind _)) = _
  rw [secretHeader_read, Option.bind_some]
  change Option.map _ (Option.filter _ ((members? (segment claims)).bind _)) = _
  cases members? (segment claims) with
  | none => rfl
  | some found =>
      rw [Option.bind_some, Option.filter_some]
      exact congrArg (Option.map Token.claims) (if_pos valid)

end Token

/-! ## The holder of a secret -/

theorem ofSecret_long (env : Environment σ) (secret : Http.Octets) (s : σ) (long : 32 ≤ secret.length) :
    ∃ id after, (KeyManager.ofSecret env secret).run s =
      .ok (.ok (.ofSource (.agreed (.ofSecret secret id))), after) := by
  refine ⟨uuidText (env.random 16 s).1, (env.random 16 s).2, ?_⟩
  unfold KeyManager.ofSecret
  rw [if_neg (show ¬ secret.length < KeyManager.minSecretOctets from Nat.not_lt.mpr long)]
  rfl

theorem ofSecret_short (env : Environment σ) (secret : Http.Octets) (s : σ) (short : secret.length < 32) :
    (KeyManager.ofSecret env secret).run s = .ok (.error
      ("the shared secret must be at least 32 bytes long, got " ++ toString secret.length), s) := by
  unfold KeyManager.ofSecret
  rw [if_pos (show secret.length < KeyManager.minSecretOctets from short)]
  rfl

theorem agreed_follows (env : Environment σ) (secret : Http.Octets) (id : String) (calls : List KeyCall)
    (s : σ) :
    let key := SigningKey.ofSecret secret id
    let held := KeyManager.mk (.agreed key) (some key)
    ∃ answers keys between,
      ((KeyCall.carryOutAll env calls).run (.ofSource (.agreed key))).run s =
        .ok ((answers, keys), between) ∧
      ((KeyAction.keyId env).run keys).run between = .ok ((.ok id, held), between) ∧
      ((KeyAction.publicKey env).run keys).run between = .ok ((.ok key.publicKey, held), between) ∧
      ∀ claims, ((KeyAction.sign env claims).run keys).run between =
        .ok ((.ok (.issue id (.ofSecret secret id) claims), held), between) := by
  intro key held
  obtain ⟨events, last, between, -, course, ran⟩ := carryOutAll_runs env (.agreed key) calls none s
  have yields : ∀ other, last = some other → (KeyOrigin.secret secret id).Yields other :=
    KeyCourse.last_yields (fun other none => by cases none) course
  have found : ((KeyAction.signingKey env).run ⟨.agreed key, last⟩).run between =
      .ok ((.ok key, held), between) := by
    cases last with
    | none => rfl
    | some other =>
        cases yields other rfl
        rfl
  refine ⟨_, _, between, ran, ?_, ?_, fun claims => ?_⟩
  · exact (KeyAction.run_bind_ok _ _ _ between _).mpr ⟨_, _, _, found, rfl⟩
  · exact (KeyAction.run_bind_ok _ _ _ between _).mpr ⟨_, _, _, found, rfl⟩
  · refine (KeyAction.run_bind_ok _ _ _ between _).mpr ⟨_, _, _, found, ?_⟩
    rw [Except.bind, SigningKey.sign_ofSecret]
    rfl

/-- Tokens of a shared secret can be checked, and say what was signed. A secret is refused when it is shorter
than 32 octets; from a longer one a key is made, which signs all claims at any time. The token has three parts,
and names the key of the secret. Of claims whose numbers are whole and of 64 bits everything is read back, by
who has the public key, just as long as their containers do not stand deeper inside each other than a reader
goes. -/
theorem shared_secret_round_trip (env : Environment σ) (secret : Http.Octets) (s : σ) :
    (secret.length < 32 → (KeyManager.ofSecret env secret).run s = .ok (.error
      ("the shared secret must be at least 32 bytes long, got " ++ toString secret.length), s)) ∧
    (32 ≤ secret.length → ∃ manager after id key,
      (KeyManager.ofSecret env secret).run s = .ok (.ok manager, after) ∧
      ∀ calls t, ∃ answers keys between held,
        ((KeyCall.carryOutAll env calls).run manager).run t = .ok ((answers, keys), between) ∧
        ((KeyAction.keyId env).run keys).run between = .ok ((.ok id, held), between) ∧
        ((KeyAction.publicKey env).run keys).run between = .ok ((.ok key, held), between) ∧
        ∀ claims, ∃ token header payload signature,
          ((KeyAction.sign env claims).run keys).run between = .ok ((.ok token, held), between) ∧
          Token.Sealed secret id claims token.chars header payload signature ∧
          ((Value.object claims).Exact →
            (Token.members? payload = some claims ↔ (Value.object claims).depth ≤ 127) ∧
            ((Token.verify? key .hs256 token.chars).map Token.claims = some claims ↔
              (Value.object claims).depth ≤ 127))) := by
  refine ⟨ofSecret_short env secret s, fun long => ?_⟩
  obtain ⟨id, after, made⟩ := ofSecret_long env secret s long
  refine ⟨_, after, id, (SigningKey.ofSecret secret id).publicKey, made, fun calls t => ?_⟩
  obtain ⟨answers, keys, between, ran, named, shown, signs⟩ := agreed_follows env secret id calls t
  refine ⟨answers, keys, between, _, ran, named, shown, fun claims => ?_⟩
  refine ⟨_, _, _, _, signs claims, Token.sealed_issue secret id claims, fun exact => ⟨?_, ?_⟩⟩
  · exact Token.members_segment_iff claims exact
  · rw [Token.verify_issue]
    exact Token.members_segment_iff claims exact

/-- Everything that text can say of claims, but doubles. -/
def mixedClaims : Members :=
  [("sub", .string "é\"\\\n"), ("n", .array [.number (.whole (-(2 ^ 63))), .number (.whole (2 ^ 64 - 1))]),
    ("ext", .object [("a", .bool true), ("b", .null), ("", .object [])])]

theorem mixedClaims_exact : (Value.object mixedClaims).Exact := by
  refine .object _ (by decide) ?_
  simp only [mixedClaims, List.forall_mem_cons]
  refine ⟨.string _, .array _ ?_, .object _ (by decide) ?_, nofun⟩
  · simp only [List.forall_mem_cons]
    exact ⟨.whole _ (by decide) (by decide), .whole _ (by decide) (by decide), nofun⟩
  · simp only [List.forall_mem_cons]
    exact ⟨.bool true, .null, .object _ (by decide) nofun, nofun⟩

theorem shared_secret_mixed : ∃ manager after key token held,
    (KeyManager.ofSecret Proxy.silent (List.replicate 32 0)).run () = .ok (.ok manager, after) ∧
    ((KeyAction.publicKey Proxy.silent).run manager).run () = .ok ((.ok key, held), ()) ∧
    ((KeyAction.sign Proxy.silent mixedClaims).run manager).run () = .ok ((.ok token, held), ()) ∧
    (Token.verify? key .hs256 token.chars).map Token.claims = some mixedClaims ∧
    (KeyManager.ofSecret Proxy.silent [1, 2, 3]).run () =
      .ok (.error "the shared secret must be at least 32 bytes long, got 3", ()) := by
  obtain ⟨-, long⟩ := shared_secret_round_trip Proxy.silent (List.replicate 32 0) ()
  obtain ⟨short, -⟩ := shared_secret_round_trip Proxy.silent [1, 2, 3] ()
  obtain ⟨manager, after, id, key, made, follows⟩ := long (by decide)
  obtain ⟨answers, keys, between, held, ran, -, shown, signs⟩ := follows [] ()
  cases ran
  obtain ⟨token, header, payload, signature, signed, -, back⟩ := signs mixedClaims
  refine ⟨manager, after, key, token, held, made, shown, signed, ?_, short (by decide)⟩
  exact (back mixedClaims_exact).2.mpr (by simp [mixedClaims, Value.depth, membersDepth, itemsDepth])

/-! ## Claims that are not read back -/

/-- Arrays inside each other. -/
def nested : Nat → Value
  | 0 => .null
  | n + 1 => .array [nested n]

theorem nested_exact (n : Nat) : (nested n).Exact := by
  induction n with
  | zero => exact .null
  | succ n ih => exact .array _ fun item inside => List.mem_singleton.mp inside ▸ ih

theorem nested_depth (n : Nat) : (nested n).depth = n := by
  induction n with
  | zero => rfl
  | succ n ih => simp [nested, Value.depth, itemsDepth, ih]

/-- Claims that hold one array too many inside each other. -/
def deepClaims : Members := [("n", nested 127)]

theorem deepClaims_unread : Token.members? (Token.segment deepClaims) ≠ some deepClaims := by
  have exact : (Value.object deepClaims).Exact := by
    refine .object _ (by simp [deepClaims, Members.names]) fun member inside => ?_
    rw [List.mem_singleton.mp inside]
    exact nested_exact 127
  rw [ne_eq, Token.members_segment_iff deepClaims exact]
  simp [deepClaims, Value.depth, membersDepth, nested_depth, depthLimit]

/-- A whole number that is not of 64 bits, and so a double. -/
def large : Double := .ofFloat 3e23

def largeClaims : Members := [("n", .number (.real large))]

def onlyDouble? : Value → Option (String × Double)
  | .object [(name, .number (.real x))] => some (name, x)
  | _ => none

theorem onlyDouble_some (value : Value) (name : String) (x : Double)
    (known : onlyDouble? value = some (name, x)) : value = .object [(name, .number (.real x))] := by
  unfold onlyDouble? at known
  split at known
  · cases known
    rfl
  · cases known

theorem largeClaims_written : Json.parse "\x7b\"n\":300000000000000000000000\x7d".toList =
    .ok (.object largeClaims) := by
  have found : (Json.parse "\x7b\"n\":300000000000000000000000\x7d".toList).toOption.bind onlyDouble? =
      some ("n", large) := by decide +kernel
  cases read : Json.parse "\x7b\"n\":300000000000000000000000\x7d".toList with
  | error e =>
      rw [read] at found
      cases found
  | ok value =>
      rw [read] at found
      rw [onlyDouble_some value "n" large found, largeClaims]

-- The text is `3e+23`, and a reader rounds it twice: for ten to the power, and for the product.
theorem largeClaims_unread : Token.members? (Token.segment largeClaims) ≠ some largeClaims := by
  have other : (Json.parse (Value.object largeClaims).chars).toOption.bind onlyDouble? ≠
      some ("n", large) := by decide +kernel
  rw [Token.members_segment]
  intro same
  cases read : Json.parse (Value.object largeClaims).chars with
  | error e =>
      rw [read] at same
      cases same
  | ok value =>
      rw [read] at same other
      cases value with
      | object members =>
          cases same
          exact other rfl
      | _ => cases same

/-- Claims with a large number or too many arrays are signed, but who checks the token gets others, or none. -/
theorem claims_misread :
    Json.parse "\x7b\"n\":300000000000000000000000\x7d".toList = .ok (.object largeClaims) ∧
    0 ≤ large.exponent ∧
    ∀ claims ∈ [largeClaims, deepClaims], ∃ manager after key token held,
      (KeyManager.ofSecret Proxy.silent (List.replicate 32 0)).run () = .ok (.ok manager, after) ∧
      ((KeyAction.publicKey Proxy.silent).run manager).run () = .ok ((.ok key, held), ()) ∧
      ((KeyAction.sign Proxy.silent claims).run manager).run () = .ok ((.ok token, held), ()) ∧
      (Token.verify? key .hs256 token.chars).map Token.claims ≠ some claims := by
  refine ⟨largeClaims_written, by decide +kernel, fun claims listed => ?_⟩
  obtain ⟨id, after, made⟩ := ofSecret_long Proxy.silent (List.replicate 32 0) () (by decide)
  obtain ⟨answers, keys, between, ran, -, shown, signs⟩ :=
    agreed_follows Proxy.silent (List.replicate 32 0) id [] ()
  cases ran
  refine ⟨_, after, _, _, _, made, shown, signs claims, ?_⟩
  rw [Token.verify_issue]
  simp only [List.mem_cons, List.not_mem_nil, or_false] at listed
  rcases listed with rfl | rfl
  · exact largeClaims_unread
  · exact deepClaims_unread

end AccessGate
