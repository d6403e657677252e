import AccessGate.Denial
import AccessGate.Http.Target
import AccessGate.Url.Basic

/-!
Where an allowed request goes: the backend's scheme, authority and path, then the request's own path
and query.
-/

namespace AccessGate.Proxy

def backendText (backend : Url) (target : Http.Target) : List Char :=
  Text.dropEnd '/' backend.render ++ target.pathAndQuery?.getD ['/']

def backendTarget (backend : Url) (target : Http.Target) : Except Denial Http.Target :=
  match Http.Target.parse (backendText backend target) with
  | .ok target => .ok target
  | .error e => .error (.badRequest ("unable to build backend url: " ++ e.message))

end AccessGate.Proxy
