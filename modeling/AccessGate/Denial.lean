import AccessGate.Diagnostic

/-!
Why a request is turned down, and how each cause is told to the caller.
-/

namespace AccessGate

inductive Denial where
  | missingToken
  | invalidToken
  | forbidden
  | noRule
  | severalRules (count : Nat)
  | policyFailure (reason : String)
  | signingFailure (reason : String)
  | backendFailure (reason : String)
  | undecided
  | badRequest (reason : String)
  deriving DecidableEq, Repr, Inhabited

namespace Denial

def message : Denial → String
  | missingToken => "Access credentials are missing"
  | invalidToken => "Access credentials are invalid"
  | forbidden => "Access credentials are not sufficient to access this resource"
  | noRule => "Requested url does not match any rules"
  | severalRules count =>
      "Expected exactly one rule but found " ++ toString count ++ " matching rules"
  | policyFailure reason => "Policy service failure: " ++ reason
  | signingFailure reason => "Unable to issue credentials: " ++ reason
  | backendFailure reason => "Upstream round trip failed: " ++ reason
  | undecided => "Transport invoked without an access decision"
  | badRequest reason => "Invalid request: " ++ reason

def status : Denial → Nat
  | missingToken => 401
  | invalidToken => 401
  | forbidden => 403
  | noRule => 404
  | badRequest _ => 400
  | backendFailure _ => 502
  | severalRules _ => 500
  | policyFailure _ => 500
  | signingFailure _ => 500
  | undecided => 500

def diagnostic : Denial → Diagnostic
  | missingToken =>
      .withHelp "access::missing_bearer_token"
        "Send the token as \x60Authorization: Bearer <token>\x60 or as the \x60access_token\x60 query parameter"
  | invalidToken => .plain "access::unauthorized"
  | forbidden => .plain "access::forbidden"
  | noRule => .plain "access::no_matching_rule"
  | severalRules _ =>
      .withHelp "access::ambiguous_match"
        "Two or more rules share a method and an overlapping URL pattern; tighten the patterns"
  | policyFailure _ => .plain "access::policy_service"
  | signingFailure _ => .plain "access::signing"
  | backendFailure _ => .plain "access::upstream"
  | undecided =>
      .withHelp "access::invariant_violation"
        "Director::direct must run on a request before Transport::round_trip"
  | badRequest _ => .plain "access::invalid_request"

end Denial

end AccessGate
