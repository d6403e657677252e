import AccessGate.Proofs.Percent
import AccessGate.Proxy.Forward

/-!
Credentials in headers. The compact form of a token is plain ASCII, so there is always a header value
that shows it to the backend.
-/

namespace AccessGate

def Text.isPrintable (c : Char) : Bool := 0x20 ≤ c.toNat && c.toNat ≤ 0x7E

namespace Base64

theorem digit_printable (n : Nat) : Text.isPrintable (digit true n) = true := by
  by_cases small : n < 63
  · have table : ∀ m : Fin 63, Text.isPrintable (digit true m) = true := by decide
    exact table ⟨n, small⟩
  · have last : digit true n = '_' := by
      unfold digit
      simp only [if_neg (show ¬ n < 26 by omega), if_neg (show ¬ n < 52 by omega),
        if_neg (show ¬ n < 62 by omega), if_neg (show ¬ n = 62 by omega), if_true]
    rw [last]
    rfl

theorem encodeUrl_printable (octets : Http.Octets) :
    (encodeUrl octets).all Text.isPrintable = true := by
  unfold encodeUrl
  induction octets using digits.induct with
  | case1 => rfl
  | case2 a => simp [digits, digit_printable]
  | case3 a b => simp [digits, digit_printable]
  | case4 a b c rest ih =>
      simp only [digits, List.all_cons, digit_printable, ih, Bool.and_self]

end Base64

namespace Utf8

theorem encode_printable (cs : List Char) (printable : cs.all Text.isPrintable = true) :
    (encode cs).all Http.isValueOctet = true := by
  induction cs with
  | nil => rfl
  | cons c cs ih =>
      simp only [List.all_cons, Bool.and_eq_true] at printable
      obtain ⟨low, high⟩ : 0x20 ≤ c.toNat ∧ c.toNat ≤ 0x7E := by
        simpa [Text.isPrintable] using printable.1
      have table : ∀ n : Fin 0x7F, 0x20 ≤ n.val → Http.isValueOctet (UInt8.ofNat n) = true := by
        decide
      have valid := table ⟨c.toNat, by omega⟩ low
      have tail := ih printable.2
      unfold encode at tail ⊢
      rw [List.flatMap_cons, encodeChar_ascii c (by omega), List.all_append, tail]
      simp only [List.all_cons, List.all_nil, valid, Bool.and_self]

end Utf8

theorem Token.chars_printable (token : Token) : token.chars.all Text.isPrintable = true := by
  have point : Text.isPrintable '.' = true := by decide
  simp [chars, signedText, segment, Base64.encodeUrl_printable, point]

theorem credentialField_render (token : Token) :
    ∃ value, credentialField? token.render = .ok value := by
  have prefixed : ("Bearer " ++ token.render).toList = "Bearer ".toList ++ token.chars := by
    simp [Token.render]
  have printable : ("Bearer ".toList ++ token.chars).all Text.isPrintable = true := by
    rw [List.all_append, token.chars_printable]
    decide
  have valid := Utf8.encode_printable _ printable
  refine ⟨Utf8.encode ("Bearer ".toList ++ token.chars), ?_⟩
  unfold credentialField? Http.fieldText? Http.fieldValue?
  rw [prefixed, if_pos valid]

namespace Proxy

theorem forwardedHeaders_of_token (incoming : Http.Incoming) (credential : Option Token) :
    ∃ headers, forwardedHeaders incoming (credential.map Token.render) = .ok headers := by
  unfold forwardedHeaders
  cases credential with
  | none => cases incoming.peer with
    | none => exact ⟨_, rfl⟩
    | some peer => exact ⟨_, rfl⟩
  | some token =>
      obtain ⟨value, shown⟩ := credentialField_render token
      simp only [Option.map_some, shown]
      cases incoming.peer with
      | none => exact ⟨_, rfl⟩
      | some peer => exact ⟨_, rfl⟩

end Proxy

end AccessGate
