import AccessGate.Cors
import AccessGate.Judge
import AccessGate.Proxy.Forward
import AccessGate.Readiness.Bus

/-!
The two listeners: one that forwards everything, and one that judges, publishes keys and tells how
the gate is doing.
-/

namespace AccessGate.Web

open Json
open Http (Method Headers)

/-! ## Finishing answers -/

def lengthField (size : Nat) : Headers := [("content-length", Utf8.encode (Text.natText size))]

def isSuccess (status : Nat) : Bool := 200 ≤ status && status < 300

/-- An answer tells the length of its body, also where the body itself is left out. A tunnel that is
opened has no body at all. -/
def finished (method : Method) (response : Http.Response) : Http.Response :=
  if method = .connect ∧ isSuccess response.status then { response with body := [] }
  else
    let headers := if response.headers.contains "content-length" then response.headers
      else response.headers ++ lengthField response.body.length
    { response with headers := headers, body := if method = .head then [] else response.body }

/-! ## The proxy -/

def proxied (arbiter : Arbiter σ) (backend : Url) (cors : Option CorsPolicy)
    (incoming : Http.Incoming) : KeyAction σ Http.Response :=
  match cors with
  | none => do return finished incoming.method (← Proxy.handle arbiter backend incoming)
  | some policy =>
      if incoming.method = .options then
        pure (finished incoming.method (policy.preflight incoming.headers))
      else do
        let response ← Proxy.handle arbiter backend incoming
        return finished incoming.method (policy.annotate incoming.headers response)

def corsOf (settings : CorsSettings) : Except SetupError (Option CorsPolicy) :=
  if settings.enabled then (CorsPolicy.ofSettings settings).map some else .ok none

/-! ## Everything else -/

inductive Route where
  | judge
  | inner
  | keys
  | alive
  | ready
  | version
  deriving DecidableEq, Repr

namespace Route

/-- The route of a path; below the judge there has to be something more. -/
def ofPath? (path : List Char) : Option Route :=
  if path = Judge.path then some judge
  else if path = "/.well-known/jwks.json".toList then some keys
  else if path = "/health/alive".toList then some alive
  else if path = "/health/ready".toList then some ready
  else if path = "/version".toList then some version
  else match Text.afterStart? (Judge.path ++ ['/']) path with
    | some (_ :: _) => some inner
    | _ => none

/-- The methods of a route; where there is no list, any will do. -/
def methods? : Route → Option (List Method)
  | judge => some [.post]
  | inner => none
  | _ => some [.get, .head]

def admits (route : Route) (method : Method) : Bool :=
  match route.methods? with
  | some methods => methods.contains method
  | none => true

def refusal (route : Route) : Http.Response :=
  let names := (route.methods?.getD []).map Method.name
  ⟨405, [("allow", Utf8.encode (String.intercalate "," names).toList)], []⟩

end Route

def fine : Http.Response := .json 200 (.object [("status", .string "ok")])

/-- The objections by probe; of several probes of one name the last one counts. -/
def objectionsValue (objections : List (String × ReadinessError)) : Value :=
  let named := Members.ofList (objections.map fun o => (o.1, Value.string o.2.message))
  .object (named.mergeSort fun a b => decide (a.1 ≤ b.1))

def readiness (readiness : Readiness) : Http.Response :=
  if readiness.isReady then fine
  else .json 503 (.object [("errors", objectionsValue readiness.objections)])

def version : Http.Response := .json 200 (.object [("version", .string "0.1.0")])

def keySet (env : Environment σ) : KeyAction σ Http.Response := do
  match ← KeyAction.published env with
  | .ok keys => pure (.json 200 (KeyAction.keySet keys))
  | .error e => pure (Denial.signingFailure e.message).response

def routed (arbiter : Arbiter σ) (state : Readiness) (incoming : Http.Incoming) :
    Route → KeyAction σ Http.Response
  | .judge => Judge.described arbiter incoming
  | .inner => Judge.itself arbiter incoming
  | .keys => keySet arbiter.env
  | .alive => pure fine
  | .ready => pure (readiness state)
  | .version => pure version

def served (arbiter : Arbiter σ) (state : Readiness) (incoming : Http.Incoming) :
    KeyAction σ Http.Response :=
  match Route.ofPath? incoming.target.path with
  | none => pure (.empty 404)
  | some route =>
      if route.admits incoming.method then do
        return finished incoming.method (← routed arbiter state incoming route)
      else pure (finished incoming.method route.refusal)

def health (state : Readiness) (incoming : Http.Incoming) : Http.Response :=
  match Route.ofPath? incoming.target.path with
  | some route =>
      let response? := match route with
        | .alive => some fine
        | .ready => some (readiness state)
        | .version => some version
        | _ => none
      match response? with
      | some response =>
          if route.admits incoming.method then finished incoming.method response
          else finished incoming.method route.refusal
      | none => .empty 404
  | none => .empty 404

end AccessGate.Web
