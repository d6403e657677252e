import AccessGate.Config.Conversion
import AccessGate.Diagnostic
import AccessGate.Keys.Jwk

/-!
Why the gate cannot be set up.
-/

namespace AccessGate

inductive SetupError where
  | io (reason : String)
  | config (cause : Config.Error)
  | http (reason : String)
  | jose (cause : JoseError)
  | badSettings (reason : String)
  | other (reason : String)
  deriving DecidableEq, Repr

namespace SetupError

def message : SetupError → String
  | io reason => "I/O error: " ++ reason
  | config cause => "Config error: " ++ cause.message
  | http reason => "HTTP client error: " ++ reason
  | jose cause => "JOSE error: " ++ cause.message
  | badSettings reason => "Invalid configuration: " ++ reason
  | other reason => reason

def diagnostic : SetupError → Diagnostic
  | io _ => .plain "io"
  | config _ => .plain "config"
  | http _ => .plain "http"
  | jose _ => .plain "jose"
  | badSettings _ =>
      .withHelp "invalid_config" "Check config.toml and PORTCULLIS__* environment overrides"
  | other _ => .plain "other"

end SetupError

end AccessGate
