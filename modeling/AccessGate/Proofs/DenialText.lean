import AccessGate.Decision
import AccessGate.Proofs.Json.Printed
import AccessGate.Proofs.Text
import AccessGate.Proofs.Utf8

/-!
Denials as answers. Every denial has an answer of its own: neither its message nor the text around it
loses anything.
-/

namespace AccessGate

namespace Denial

/-- What the messages of the denials begin with, one kind after the other. -/
def openings : List String :=
  ["Access credentials are missing", "Access credentials are invalid",
   "Access credentials are not sufficient to access this resource",
   "Requested url does not match any rules", "Expected exactly one rule but found ",
   "Policy service failure: ", "Unable to issue credentials: ", "Upstream round trip failed: ",
   "Transport invoked without an access decision", "Invalid request: "]

def opening (kind : Nat) : List Char := (openings.getD kind "").toList

theorem openings_apart : ∀ i < openings.length, ∀ j < openings.length,
    opening i <+: opening j → i = j := by
  decide +kernel

theorem ctorIdx_known (denial : Denial) : denial.ctorIdx < openings.length := by
  cases denial
  all_goals exact Nat.le_of_ble_eq_true rfl

theorem opening_message (denial : Denial) :
    opening denial.ctorIdx <+: denial.message.toList := by
  have begun : ∀ text reason : String, text.toList <+: (text ++ reason).toList :=
    fun text reason => ⟨reason.toList, String.toList_append.symm⟩
  cases denial with
  | severalRules count => exact (begun _ (toString count)).trans (begun _ " matching rules")
  | policyFailure reason => exact begun _ reason
  | signingFailure reason => exact begun _ reason
  | backendFailure reason => exact begun _ reason
  | badRequest reason => exact begun _ reason
  | _ => exact List.prefix_rfl

theorem ctorIdx_of_message (a b : Denial) (same : a.message = b.message) :
    a.ctorIdx = b.ctorIdx := by
  have one := opening_message a
  rw [same] at one
  rcases List.prefix_or_prefix_of_prefix one (opening_message b) with ahead | ahead
  · exact openings_apart _ (ctorIdx_known a) _ (ctorIdx_known b) ahead
  · exact (openings_apart _ (ctorIdx_known b) _ (ctorIdx_known a) ahead).symm

theorem toString_injective (m n : Nat) (same : toString m = toString n) : m = n := by
  have text : Text.natText m = Text.natText n := by
    have chars := congrArg String.toList same
    change (Nat.repr m).toList = (Nat.repr n).toList at chars
    simpa only [Nat.repr, String.toList_ofList, Text.natText] using chars
  rw [← Text.valueIn_natText m, text, Text.valueIn_natText]

-- The kinds are told apart by the openings, and within a kind the text is the same but for the reason.
theorem message_injective (a b : Denial) (same : a.message = b.message) : a = b := by
  have kind := ctorIdx_of_message a b same
  cases a
  case severalRules count =>
    cases b
    case severalRules other =>
      have counts := (String.append_right_inj _).mp ((String.append_left_inj _).mp same)
      rw [toString_injective count other counts]
    all_goals cases kind
  case policyFailure reason =>
    cases b
    case policyFailure other => rw [(String.append_right_inj _).mp same]
    all_goals cases kind
  case signingFailure reason =>
    cases b
    case signingFailure other => rw [(String.append_right_inj _).mp same]
    all_goals cases kind
  case backendFailure reason =>
    cases b
    case backendFailure other => rw [(String.append_right_inj _).mp same]
    all_goals cases kind
  case badRequest reason =>
    cases b
    case badRequest other => rw [(String.append_right_inj _).mp same]
    all_goals cases kind
  all_goals
    cases b
    all_goals first | rfl | cases kind

theorem response_injective (a b : Denial) (same : a.response = b.response) : a = b := by
  have body := congrArg Http.Response.body same
  have text := Utf8.encode_injective body
  have quoted : Json.quote a.message = Json.quote b.message := by
    have inner := List.append_cancel_right (List.cons.inj text).2
    exact (List.cons.inj (List.append_cancel_left inner)).2
  exact message_injective a b (Json.quote_injective _ _ quoted)

theorem status_ne_ok (denial : Denial) : denial.response.status ≠ 200 := by
  change denial.status ≠ 200
  cases denial
  all_goals simp [status]

end Denial

end AccessGate
