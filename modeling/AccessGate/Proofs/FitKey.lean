import AccessGate.Keys.Basic
import AccessGate.Proofs.Base64
import AccessGate.Proofs.Json.Printed
import AccessGate.Proofs.Rsa.Signature
import AccessGate.Proofs.Url.Authority

/-!
Which keys can sign. What signs with a key is refused for its labels, for numbers that cannot be read or
computed with, and for its size. Nothing is said of keys that are not refused but whose numbers do not belong
together; valid ones sign everything, and their public part checks it.
-/

namespace AccessGate

open Json

namespace Jwk

/-- A member holds a number as the digits of its octets. -/
def Holds (key : Jwk) (name : String) (n : Nat) : Prop :=
  ∃ text octets, key.members.get? name = some (.string text) ∧
    Base64.decodeUrl? text.toList = some octets ∧ Rsa.numberOf octets = n

/-- Labels that allow signatures of the asymmetric kind. -/
structure AllowsSigning (key : Jwk) : Prop where
  kind : key.kind = "RSA"
  use : key.text? "use" = none ∨ key.text? "use" = some "sig"
  operations : ∀ listed, key.members.get? "key_ops" = some (.array listed) → .string "sign" ∈ listed
  algorithm : key.text? "alg" = none ∨ key.text? "alg" = some "RS256"

/-- The numbers that are read in a key. -/
structure Reads (key : Jwk) (numbers : Rsa.PrivateKey) : Prop where
  n : key.Holds "n" numbers.modulus
  e : key.Holds "e" numbers.publicExponent
  d : key.Holds "d" numbers.privateExponent
  p : key.Holds "p" numbers.p
  q : key.Holds "q" numbers.q
  dp : key.Holds "dp" numbers.dp
  dq : key.Holds "dq" numbers.dq
  qi : key.Holds "qi" numbers.qi

/-- A key that is not refused: its numbers can be computed with, and there are enough octets of them. -/
structure Operable (key : Jwk) : Prop extends key.AllowsSigning where
  numbers : ∃ numbers : Rsa.PrivateKey, key.Reads numbers ∧ 2 ^ (8 * 255) ≤ numbers.modulus ∧
    numbers.isOdd = true

/-- A key has the numbers of a pair as members, each in the fewest octets. -/
def Carries (key : Jwk) (numbers : Rsa.PrivateKey) : Prop :=
  ∀ member ∈ (ofRsa numbers).members, key.members.get? member.1 = some member.2

/-- What a key has to be like for signatures of the asymmetric kind. -/
structure FitToSign (key : Jwk) : Prop extends key.AllowsSigning where
  numbers : ∃ numbers : Rsa.PrivateKey, numbers.Valid ∧ 2 ^ (8 * 255) ≤ numbers.modulus ∧ key.Carries numbers

/-! ## Numbers in keys -/

theorem number_ok (key : Jwk) (name : String) (n : Nat) :
    key.number name = .ok n ↔ key.Holds name n := by
  unfold number octets Holds
  cases member : key.members.get? name with
  | none => simp [Except.map]
  | some value =>
      cases value with
      | string text =>
          cases decoded : Base64.decodeUrl? text.toList with
          | none => simp [Except.map, decoded]
          | some octets => simp [Except.map, decoded]
      | _ => simp [Except.map]

theorem number_congr (one other : Jwk) (name : String)
    (same : one.members.get? name = other.members.get? name) : one.number name = other.number name := by
  unfold number octets
  rw [same]

theorem rsaKey_ok (key : Jwk) (numbers : Rsa.PrivateKey) : key.rsaKey = .ok numbers ↔ key.Reads numbers := by
  unfold rsaKey
  simp only [Url.bind_ok, number_ok]
  constructor
  · rintro ⟨n, heldN, e, heldE, d, heldD, p, heldP, q, heldQ, dp, heldDp, dq, heldDq, qi, heldQi, made⟩
    cases made
    exact ⟨heldN, heldE, heldD, heldP, heldQ, heldDp, heldDq, heldQi⟩
  · rintro ⟨n, e, d, p, q, dp, dq, qi⟩
    exact ⟨_, n, _, e, _, d, _, p, _, q, _, dp, _, dq, _, qi, rfl⟩

theorem holds_of_numberText (key : Jwk) (name : String) (n : Nat)
    (member : key.members.get? name = some (numberText n)) : key.Holds name n := by
  refine ⟨_, _, member, ?_, Rsa.numberOf_width n⟩
  rw [String.toList_ofList, Base64.decodeUrl_encodeUrl]

theorem Carries.reads {key : Jwk} {numbers : Rsa.PrivateKey} (carries : key.Carries numbers) :
    key.Reads numbers := by
  obtain ⟨-, n, e, d, p, q, dp, dq, qi⟩ : key.members.get? "kty" = some (.string "RSA") ∧
      key.members.get? "n" = some (numberText numbers.modulus) ∧
      key.members.get? "e" = some (numberText numbers.publicExponent) ∧
      key.members.get? "d" = some (numberText numbers.privateExponent) ∧
      key.members.get? "p" = some (numberText numbers.p) ∧
      key.members.get? "q" = some (numberText numbers.q) ∧
      key.members.get? "dp" = some (numberText numbers.dp) ∧
      key.members.get? "dq" = some (numberText numbers.dq) ∧
      key.members.get? "qi" = some (numberText numbers.qi) := by
    simpa only [Carries, ofRsa, List.forall_mem_cons, List.not_mem_nil, false_implies, implies_true, and_true]
      using carries
  exact ⟨holds_of_numberText key _ _ n, holds_of_numberText key _ _ e, holds_of_numberText key _ _ d,
    holds_of_numberText key _ _ p, holds_of_numberText key _ _ q, holds_of_numberText key _ _ dp,
    holds_of_numberText key _ _ dq, holds_of_numberText key _ _ qi⟩

theorem FitToSign.operable {key : Jwk} (fit : key.FitToSign) : key.Operable := by
  obtain ⟨numbers, valid, large, carries⟩ := fit.numbers
  exact ⟨fit.toAllowsSigning, numbers, carries.reads, large, valid.isOdd⟩

/-! ## What signs with a key -/

theorem rsaSignature_ok (key : Jwk) (signature : Http.Octets → Http.Octets) :
    key.rsaSignature = .ok signature ↔
      ∃ numbers, key.Reads numbers ∧ 2 ^ (8 * 255) ≤ numbers.modulus ∧ numbers.isOdd = true ∧
        signature = numbers.sign := by
  unfold rsaSignature
  simp only [Url.bind_ok, rsaKey_ok, minModulusOctets, Rsa.width_le]
  refine exists_congr fun numbers => and_congr_right fun _ => ?_
  by_cases large : 2 ^ (8 * 255) ≤ numbers.modulus
  · rw [if_neg (not_not_intro large)]
    unfold Rsa.PrivateKey.signer?
    by_cases odd : numbers.isOdd = true
    · simp only [odd, if_true, large, true_and]
      constructor
      · rintro ⟨⟩
        rfl
      · rintro rfl
        rfl
    · simp only [odd, if_false, Bool.false_eq_true, false_and, and_false, reduceCtorEq]
  · rw [if_pos large]
    exact iff_of_false nofun fun fits => large fits.1

theorem checkUse_ok (key : Jwk) :
    key.checkUse = .ok () ↔ key.text? "use" = none ∨ key.text? "use" = some "sig" := by
  unfold checkUse
  cases key.text? "use" with
  | none => simp
  | some use => by_cases same : use = "sig" <;> simp [same]

theorem checkOperations_ok (key : Jwk) :
    key.checkOperations = .ok () ↔
      ∀ listed, key.members.get? "key_ops" = some (.array listed) → .string "sign" ∈ listed := by
  unfold checkOperations allows
  cases member : key.members.get? "key_ops" with
  | none => simp
  | some value =>
      cases value with
      | array listed =>
          have signed : (listed.filterMap Value.text?).contains "sign" = true ↔
              Value.string "sign" ∈ listed := by
            rw [List.contains_iff_mem, List.mem_filterMap]
            constructor
            · rintro ⟨value, member, text⟩
              cases value with
              | string text' =>
                  cases text
                  exact member
              | _ => cases text
            · exact fun member => ⟨_, member, rfl⟩
          by_cases allowed : (listed.filterMap Value.text?).contains "sign" = true
          · rw [if_pos allowed]
            refine iff_of_true rfl fun others same => ?_
            cases same
            exact signed.mp allowed
          · rw [if_neg allowed]
            exact iff_of_false (by simp) fun all => allowed (signed.mpr (all listed rfl))
      | _ => simp

theorem checkAlgorithm_ok (key : Jwk) (algorithm : SigningAlgorithm) :
    key.checkAlgorithm algorithm = .ok () ↔
      key.text? "alg" = none ∨ key.text? "alg" = some algorithm.name := by
  unfold checkAlgorithm
  cases key.text? "alg" with
  | none => simp
  | some alg => by_cases same : alg = algorithm.name <;> simp [same]

theorem checkKind_ok (key : Jwk) (algorithm : SigningAlgorithm) :
    key.checkKind algorithm = .ok () ↔ key.kind = algorithm.keyKind := by
  unfold checkKind
  by_cases same : key.kind = algorithm.keyKind <;> simp [same]

/-- Something signs with a key exactly when the key is not refused. -/
theorem signer_ok (key : Jwk) (signer : Signer) :
    key.signer .rs256 = .ok signer ↔ key.AllowsSigning ∧ ∃ numbers, key.Reads numbers ∧
      2 ^ (8 * 255) ≤ numbers.modulus ∧ numbers.isOdd = true ∧ signer = ⟨.rs256, key.id?, numbers.sign⟩ := by
  unfold Jwk.signer
  simp only [Url.bind_ok]
  constructor
  · rintro ⟨⟨⟩, use, ⟨⟩, operations, ⟨⟩, algorithm, ⟨⟩, kind, made⟩
    obtain ⟨signature, found, rfl⟩ := map_ok _ _ _ made
    obtain ⟨numbers, reads, large, odd, rfl⟩ := (key.rsaSignature_ok signature).mp found
    exact ⟨⟨(key.checkKind_ok .rs256).mp kind, key.checkUse_ok.mp use, key.checkOperations_ok.mp operations,
      (key.checkAlgorithm_ok .rs256).mp algorithm⟩, numbers, reads, large, odd, rfl⟩
  · rintro ⟨allows, numbers, reads, large, odd, rfl⟩
    refine ⟨(), key.checkUse_ok.mpr allows.use, (), key.checkOperations_ok.mpr allows.operations, (),
      (key.checkAlgorithm_ok .rs256).mpr allows.algorithm, (), (key.checkKind_ok .rs256).mpr allows.kind, ?_⟩
    rw [(key.rsaSignature_ok _).mpr ⟨numbers, reads, large, odd, rfl⟩]
    rfl

end Jwk

/-! ## Public parts -/

theorem Json.Members.get?_filter (name : String) (keeps : String → Bool) (members : Members) :
    Members.get? name (members.filter fun member => keeps member.1) =
      if keeps name then members.get? name else none := by
  induction members with
  | nil => simp [Members.get?]
  | cons member members ih =>
      obtain ⟨key, value⟩ := member
      by_cases kept : keeps key = true
      · rw [List.filter_cons_of_pos (by simpa using kept), Members.get?, Members.get?, ih]
        by_cases same : key = name
        · subst same
          simp [kept]
        · simp [same]
      · rw [List.filter_cons_of_neg (by simpa using kept), ih, Members.get?]
        by_cases same : key = name
        · subst same
          simp [kept]
        · simp [same]

namespace SigningKey

/-- The public part of a key: of a pair, all but what only the owner may know, under other labels; of a
secret, all of it. -/
def Paired (key : SigningKey) : Prop :=
  match key.algorithm with
  | .rs256 => ∀ name, key.publicKey.members.get? name =
      if name = "kid" then some (.string key.id)
      else if name = "alg" then some (.string "RS256")
      else if name = "use" then some (.string "sig")
      else if name ∈ Jwk.privateNames then none
      else key.privateKey.members.get? name
  | .hs256 => key.publicKey = key.privateKey

theorem ofPrivate_paired (pair : Jwk) (id : String) : (ofPrivate pair id).Paired := by
  intro name
  change Members.get? name (Members.insert "use" _ (Members.insert "alg" _ (Members.insert "kid" _
    (pair.members.filter fun member => !Jwk.privateNames.contains member.1)))) = _
  rw [Members.get?_insert, Members.get?_insert, Members.get?_insert,
    Members.get?_filter name fun name => !Jwk.privateNames.contains name]
  by_cases use : name = "use"
  · subst use
    rfl
  · by_cases alg : name = "alg"
    · subst alg
      rfl
    · by_cases kid : name = "kid"
      · subst kid
        rfl
      · by_cases hidden : name ∈ Jwk.privateNames
        · simp [use, alg, kid, hidden, Ne.symm use, Ne.symm alg, Ne.symm kid]
        · simp [use, alg, kid, hidden, Ne.symm use, Ne.symm alg, Ne.symm kid]
          rfl

theorem ofSecret_paired (octets : Http.Octets) (id : String) : (ofSecret octets id).Paired := rfl

theorem ofPrivate_number (pair : Jwk) (id name : String) (plain : name ∈ ["n", "e"]) :
    (ofPrivate pair id).publicKey.number name = pair.number name := by
  refine Jwk.number_congr _ _ name ?_
  rw [ofPrivate_paired pair id name]
  rcases List.mem_cons.mp plain with rfl | plain
  · rfl
  · cases List.mem_singleton.mp plain
    rfl

/-! ## Signing -/

/-- A key that is fit signs all claims, and its public part checks what it signs if it checks at all. -/
theorem sign_of_fit (pair : Jwk) (id : String) (fit : pair.FitToSign) (claims : Members) :
    ∃ token, (ofPrivate pair id).sign claims = .ok token ∧ ∀ numbers, pair.Reads numbers →
      (ofPrivate pair id).publicKey.verifies .rs256 token.message token.signature =
        Rsa.isCheckable numbers.modulus numbers.publicExponent := by
  obtain ⟨numbers, valid, large, carries⟩ := fit.numbers
  have reads := carries.reads
  have own : (ofPrivate pair id).privateKey.signer (ofPrivate pair id).algorithm =
      .ok ⟨.rs256, pair.id?, numbers.sign⟩ :=
    (pair.signer_ok _).mpr ⟨fit.toAllowsSigning, numbers, reads, large, valid.isOdd, rfl⟩
  refine ⟨Token.issue id ⟨.rs256, pair.id?, numbers.sign⟩ claims, ?_, fun others read => ?_⟩
  · unfold sign
    rw [own]
    rfl
  · cases Except.ok.inj (((pair.rsaKey_ok numbers).mpr reads).symm.trans ((pair.rsaKey_ok others).mpr read))
    unfold Jwk.verifies
    simp only [ofPrivate_number pair id "n" (by decide), ofPrivate_number pair id "e" (by decide),
      (pair.number_ok _ _).mpr reads.n, (pair.number_ok _ _).mpr reads.e]
    exact Rsa.verifies_sign numbers valid large _

/-- A key that is refused signs no claims, always for the same reason. -/
theorem sign_of_refused (pair : Jwk) (id : String) (refused : ¬ pair.Operable) :
    ∃ cause, ∀ claims, (ofPrivate pair id).sign claims = .error (.jose cause) := by
  cases found : pair.signer .rs256 with
  | ok signer =>
      obtain ⟨allows, numbers, reads, large, odd, -⟩ := (pair.signer_ok signer).mp found
      exact absurd ⟨allows, numbers, reads, large, odd⟩ refused
  | error cause =>
      have own : (ofPrivate pair id).privateKey.signer (ofPrivate pair id).algorithm = .error cause := found
      refine ⟨cause, fun claims => ?_⟩
      unfold sign
      rw [own]

end SigningKey

end AccessGate
