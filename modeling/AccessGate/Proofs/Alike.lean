import AccessGate.Decision

/-!
Requests that no rule tells apart. A decision looks at a request only through the name of its method
in any case, the URL that is matched, the token and the context.
-/

namespace AccessGate

variable {σ : Type}

open Text (lower)

theorem MethodSet.contains_alike (set : MethodSet) (a b : Http.Method)
    (same : lower a.name.toList = lower b.name.toList) : set.contains a = set.contains b := by
  cases set with
  | any => rfl
  | only names => simp only [contains, Text.sameIgnoringCase, same]

/-- Requests whose differences no decision sees. -/
structure Request.Alike (a b : Request) : Prop where
  method : lower a.method.name.toList = lower b.method.name.toList
  matchUrl : a.matchUrl = b.matchUrl
  token : a.token = b.token
  context : Evaluation.contextOf a = Evaluation.contextOf b

namespace Request.Alike

variable {a b : Request}

theorem same_plan (alike : Alike a b) (rules : RuleSet) :
    Evaluation.plan rules a = Evaluation.plan rules b := by
  have matching : rules.matching a.method a.matchUrl = rules.matching b.method b.matchUrl := by
    simp only [RuleSet.matching, Rule.isMatching, alike.matchUrl,
      MethodSet.contains_alike _ a.method b.method alike.method]
  have responsible : rules.responsible a.method a.matchUrl =
      rules.responsible b.method b.matchUrl := by
    unfold RuleSet.responsible
    rw [matching]
  have planned : ∀ rule, Evaluation.planFor rule a = Evaluation.planFor rule b := by
    intro rule
    simp only [Evaluation.planFor, Evaluation.queryOf, alike.matchUrl, alike.token, alike.context]
  unfold Evaluation.plan
  simp only [responsible, planned]

theorem same_evaluation (alike : Alike a b) (client : PolicyClient σ) (rules : RuleSet) :
    evaluate client rules a = evaluate client rules b := by
  unfold evaluate
  rw [alike.same_plan rules]

theorem same_decision (alike : Alike a b) (arbiter : Arbiter σ) :
    arbiter.decide a = arbiter.decide b := by
  unfold Arbiter.decide Arbiter.session
  rw [alike.same_evaluation]

end Request.Alike

end AccessGate
