import Mathlib.Data.List.Basic

/-!
Histories: lists of what happened, oldest first. A law of a history says for each entry what there was
before it.
-/

namespace AccessGate

variable {α : Type}

def EachAfter (holds : List α → α → Prop) (history : List α) : Prop :=
  ∀ before entry behind, history = before ++ entry :: behind → holds before entry

theorem eachAfter_nil (holds : List α → α → Prop) : EachAfter holds [] := by
  intro before entry behind same
  simp at same

-- The new entry is the last one, or the split is one of the old history.
theorem eachAfter_snoc {holds : List α → α → Prop} {history : List α} {last : α}
    (old : EachAfter holds history) (new : holds history last) : EachAfter holds (history ++ [last]) := by
  intro before entry behind same
  rcases List.eq_nil_or_concat behind with rfl | ⟨front, final, rfl⟩
  · obtain ⟨rfl, one⟩ := List.append_inj' same rfl
    cases one
    exact new
  · have split : history ++ [last] = (before ++ entry :: front) ++ [final] := by
      rw [same, List.concat_eq_append, List.append_assoc, List.cons_append]
    exact old before entry front (List.append_inj' split rfl).1

end AccessGate
