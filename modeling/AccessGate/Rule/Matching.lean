import AccessGate.Denial
import AccessGate.Rule.Basic

/-!
Which rule decides about a request: the only one that matches. Several are an error, whatever their
order.
-/

namespace AccessGate.RuleSet

def allMatching (rules : RuleSet) (method : Http.Method) (url : List Char) :
    Except Denial (List Rule) :=
  match rules.matching method url with
  | [] => .error .noRule
  | found => .ok found

def responsible (rules : RuleSet) (method : Http.Method) (url : List Char) : Except Denial Rule :=
  match rules.matching method url with
  | [] => .error .noRule
  | [rule] => .ok rule
  | found => .error (.severalRules found.length)

end AccessGate.RuleSet
