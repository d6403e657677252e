import AccessGate.Http.Client
import AccessGate.Rule.Basic

/-!
Where the rule list is kept, and how the active rules follow it: a list that arrives and compiles
takes their place as a whole, anything else leaves them as they are.
-/

namespace AccessGate

open Json

inductive RuleStore where
  | memory (rules : List RuleSpec)
  | file (path : String)
  | http (baseUrl : String)
  deriving Inhabited, Repr

namespace RuleStore

def ofFile (path : String) : Except String Http.Octets → Except RuleError (List RuleSpec)
  | .error reason =>
      .error (.refreshFailed ("unable to read \x60" ++ path ++ "\x60: " ++ reason))
  | .ok octets =>
      match Utf8.decode? octets with
      | none =>
          .error (.refreshFailed ("unable to read \x60" ++ path ++
            "\x60: stream did not contain valid UTF-8"))
      | some cs =>
          match (Document.ofChars cs).read RuleSpec.decodeList with
          | .ok specs => .ok specs
          | .error e =>
              .error (.refreshFailed ("\x60" ++ path ++ "\x60 is not a rule list: " ++ e.message))

def rulesUrl (baseUrl : String) : String :=
  String.ofList (Text.dropEnd '/' baseUrl.toList) ++ "/rules"

def ofAnswer (url : String) :
    Except Http.SendError Http.Response → Except RuleError (List RuleSpec)
  | .error e => .error (.refreshFailed ("GET " ++ url ++ ": " ++ e.message))
  | .ok response =>
      if response.status = 200 then
        match response.decode? RuleSpec.decodeList with
        | some specs => .ok specs
        | none =>
            .error (.refreshFailed ("decoding rules from " ++ url ++ ": " ++
              Http.Outgoing.undecodable))
      else
        .error (.refreshFailed ("unable to fetch rules from " ++ url ++
          ": expected status code 200 but got " ++ toString response.status))

def list (env : Environment σ) : RuleStore → Action σ (Except RuleError (List RuleSpec))
  | .memory rules => pure (.ok rules)
  | .file path => do return ofFile path (← env.file path)
  | .http baseUrl => do
      let url := rulesUrl baseUrl
      return ofAnswer url (← Http.fetch env (Http.Outgoing.ofText .get url))

end RuleStore

namespace RuleSet

def ofDelivery (delivered : Except RuleError (List RuleSpec)) : Except RuleError RuleSet :=
  delivered.bind compile

def refreshed (active : RuleSet) (delivered : Except RuleError (List RuleSpec)) : RuleSet :=
  match ofDelivery delivered with
  | .ok rules => rules
  | .error _ => active

end RuleSet

end AccessGate
