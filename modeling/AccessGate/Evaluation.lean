import AccessGate.Policy.Client
import AccessGate.Request
import AccessGate.Rule.Matching
import AccessGate.Session

/-!
The access decision. The rules alone settle it, or they say what the policy service has to be asked;
it is asked at most once.
-/

namespace AccessGate

/-- What the policy service is asked about a request. -/
inductive Question where
  | introspect (token : String)
  | authorize (query : AccessQuery)
  deriving Inhabited

/-- How far the rules alone decide. -/
inductive Plan where
  | settled (outcome : Except Denial Session)
  | ask (question : Question)

/-- A decision and how it came about. -/
structure Evaluation where
  outcome : Except Denial Session
  asked : Option Question
  /-- A token that did not help, and was ignored. -/
  ignoredToken : Option String

namespace Evaluation

def remoteIpKey : String := "remoteIpAddress"

/-- The context of a query: that of the request, with the caller's address when it is known. -/
def contextOf (request : Request) : Json.Members :=
  match request.remoteIp with
  | some ip => request.context.insert remoteIpKey (.string ip)
  | none => request.context

def queryOf (rule : Rule) (request : Request) (token : String) : AccessQuery :=
  let url := request.matchUrl
  ⟨rule.expand rule.action url, rule.expand rule.resource url, rule.scopes, token,
    contextOf request⟩

def planFor (rule : Rule) (request : Request) : Plan :=
  match rule.mode, request.token with
  | .bypass, _ => .settled (.ok .bypassed)
  | .anonymous, _ => .settled (.ok .anonymous)
  | .publicAccess, none => .settled (.ok .anonymous)
  | .publicAccess, some token => .ask (.introspect token)
  | .policy, none => .settled (.error .missingToken)
  | .policy, some token => .ask (.authorize (queryOf rule request token))

def plan (rules : RuleSet) (request : Request) : Plan :=
  match rules.responsible request.method request.matchUrl with
  | .error denial => .settled (.error denial)
  | .ok rule => planFor rule request

/-- A token only ever adds an identity; without an active one the caller stays anonymous. -/
def identified : Except PolicyError Introspection → Option Session
  | .ok i =>
      if i.active then some { Session.authenticated i.subject i.clientId with extra := i.extra }
      else none
  | .error _ => none

/-- Only an explicit consent lets a request pass. -/
def consented : Except PolicyError Authorization → Except Denial Session
  | .ok a =>
      if a.allowed then .ok { Session.authenticated a.subject a.clientId with extra := a.extra }
      else .error .forbidden
  | .error (.badStatus 401) => .error .invalidToken
  | .error e => .error (.policyFailure e.message)

def ofIntrospection (token : String) (answer : Except PolicyError Introspection) : Evaluation :=
  match identified answer with
  | some session => ⟨.ok session, some (.introspect token), none⟩
  | none => ⟨.ok .anonymous, some (.introspect token), some token⟩

def ofAuthorization (query : AccessQuery) (answer : Except PolicyError Authorization) :
    Evaluation :=
  ⟨consented answer, some (.authorize query), none⟩

def carryOut (client : PolicyClient σ) : Plan → Action σ Evaluation
  | .settled outcome => pure ⟨outcome, none, none⟩
  | .ask (.introspect token) => do pure (ofIntrospection token (← client.introspect token))
  | .ask (.authorize query) => do pure (ofAuthorization query (← client.authorize query))

/-- The start of a token, which is all that is ever logged of it. -/
def tokenStart (token : String) : String := String.ofList (token.toList.take 5) ++ "..."

end Evaluation

def evaluate (client : PolicyClient σ) (rules : RuleSet) (request : Request) :
    Action σ Evaluation :=
  Evaluation.carryOut client (Evaluation.plan rules request)

end AccessGate
