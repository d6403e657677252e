import AccessGate.Diagnostic
import AccessGate.Pattern.Search
import AccessGate.Rule.MethodSet
import AccessGate.Rule.Spec
import AccessGate.Rule.Template

/-!
Rules ready for matching. A rule has an identifier that is not blank, a pattern that can be
searched for and, when the policy service is asked, templates for what it is asked.
-/

namespace AccessGate

inductive RuleError where
  | badPattern (id : String)
  | badRule (id reason : String)
  | refreshFailed (reason : String)
  deriving DecidableEq, Repr, Inhabited

namespace RuleError

def message : RuleError → String
  | badPattern id => "Rule \x60" ++ id ++ "\x60 has an invalid URL pattern"
  | badRule id reason => "Rule \x60" ++ id ++ "\x60 is invalid: " ++ reason
  | refreshFailed reason => "Refreshing rules failed: " ++ reason

def diagnostic : RuleError → Diagnostic
  | badPattern _ =>
      .withHelp "rules::invalid_pattern"
        "\x60match.url\x60 must be a valid regular expression over scheme://host/path"
  | badRule _ _ => .plain "rules::invalid_rule"
  | refreshFailed _ =>
      .withHelp "rules::refresh_failed"
        "The previously loaded rule set stays active until a refresh succeeds"

end RuleError

structure Rule where
  id : String
  description : String
  methods : MethodSet
  url : String
  pattern : Pattern.Compiled
  mode : RuleMode
  action : String
  resource : String
  scopes : List String
  deriving Inhabited

namespace Rule

/-- Checks the identifier first, then the templates, then the pattern. -/
def compile (spec : RuleSpec) : Except RuleError Rule :=
  if Text.isBlankText spec.id.toList then
    .error (.badRule spec.id "rule id must not be empty")
  else if spec.mode = .policy ∧ (spec.action = "" ∨ spec.resource = "") then
    .error (.badRule spec.id
      "policy rules need \x60required_action\x60 and \x60required_resource\x60")
  else match Pattern.compile spec.url.toList with
    | .error _ => .error (.badPattern spec.id)
    | .ok pattern =>
        .ok ⟨spec.id, spec.description, .ofList spec.methods, spec.url, pattern, spec.mode,
          spec.action, spec.resource, spec.scopes⟩

def isMatching (rule : Rule) (method : Http.Method) (url : List Char) : Bool :=
  rule.methods.contains method && rule.pattern.isIn url

def expand (rule : Rule) (template : String) (url : List Char) : String :=
  let groups := (rule.pattern.groupsIn? url).getD []
  String.ofList (Template.expand groups template.toList)

end Rule

abbrev RuleSet := List Rule

namespace RuleSet

/-- One rule that cannot be compiled rejects them all. -/
def compile (specs : List RuleSpec) : Except RuleError RuleSet := specs.mapM Rule.compile

def matching (rules : RuleSet) (method : Http.Method) (url : List Char) : List Rule :=
  rules.filter (·.isMatching method url)

end RuleSet

end AccessGate
