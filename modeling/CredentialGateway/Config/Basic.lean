import CredentialGateway.Text

/-!
# Configuration

Where the gateway listens, the one service it forwards to, and how it logs.  Every field has a
default, so the empty configuration is a complete one.
-/

namespace CredentialGateway

/-- The form of the log lines. -/
inductive LogFormat
  | pretty
  | json
  deriving DecidableEq, Repr

structure ListenerConfig where
  socketPath : Text := "/run/guest/volumes-service.sock"
  deriving DecidableEq, Repr

structure ServiceConfig where
  /-- Scheme, host and, if need be, port and path of the service. -/
  baseUrl : Text := "https://api.openai.com"
  /-- The path under which requests are forwarded. -/
  pathStart : Text := "/openai"
  /-- What every occurrence of `pathStart` in a path is replaced by. -/
  basePath : Text := "/v1"
  /-- The environment variable that holds the credential. -/
  credentialEnv : Text := "OPENAI_API_KEY"
  /-- The content type of every forwarded request. -/
  contentType : Text := "application/json"
  /-- Proxies named in the environment are used. -/
  useEnvProxy : Bool := true
  deriving DecidableEq, Repr

structure ObservabilityConfig where
  logLevel : Text := "info"
  format : LogFormat := .pretty
  deriving DecidableEq, Repr

structure GatewayConfig where
  listener : ListenerConfig := {}
  service : ServiceConfig := {}
  observability : ObservabilityConfig := {}
  deriving DecidableEq, Repr

end CredentialGateway
