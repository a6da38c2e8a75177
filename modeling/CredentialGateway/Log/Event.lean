import CredentialGateway.Text

/-!
# Log events

Everything the gateway reports is one of the events below.  Level, place, message and fields of
an event are functions of it, so two runs log the same exactly if their events are equal.
-/

namespace CredentialGateway.Log

inductive Level
  | trace | debug | info | warn | error
  deriving DecidableEq, Repr

/-- The two signals that stop the program. -/
inductive Signal
  | interrupt | terminate
  deriving DecidableEq, Repr

/-- The value of a field: a text shown as it is, a text shown in quotes, or a truth value. -/
inductive FieldValue
  | shown (t : Text)
  | quoted (t : Text)
  | flag (b : Bool)
  deriving DecidableEq, Repr

inductive Event
  | starting
  | configured (socket baseUrl : Text)
  | credentialLoaded (name : Text)
  | credentialUnavailable (name reason : Text)
  | credentialUnfit
  | staleRemoved (path : Text)
  | staleKept (path error : Text)
  | bound (path : Text)
  | cannotStart (error : Text)
  | proxyConfigured (baseUrl pathStart basePath : Text) (credentialPresent : Bool)
  | serving (socket : Text)
  | dotSegment (path : Text)
  | sending (method url : Text)
  | sendFailed (url error : Text)
  | signalled (signal : Signal)
  | stopping
  | stopped
  | finished
  deriving DecidableEq, Repr

namespace Level

def name : Level → Text
  | trace => "TRACE"
  | debug => "DEBUG"
  | info => "INFO"
  | warn => "WARN"
  | error => "ERROR"

/-- How much a level lets through: from errors only to everything. -/
def verbosity : Level → Nat
  | error => 1
  | warn => 2
  | info => 3
  | debug => 4
  | trace => 5

end Level

namespace Event

def level : Event → Level
  | credentialLoaded .. | staleRemoved .. => .debug
  | credentialUnavailable .. | credentialUnfit | staleKept .. | dotSegment .. | sendFailed .. =>
    .warn
  | cannotStart .. => .error
  | _ => .info

/-- The part of the program that reports the event. -/
def target : Event → Text
  | starting | configured .. | cannotStart .. | finished => "guest_gateway"
  | credentialLoaded .. | credentialUnavailable .. | credentialUnfit =>
    "guest_gateway::proxy::credential"
  | staleRemoved .. | staleKept .. | bound .. => "guest_gateway::net::listener"
  | proxyConfigured .. | serving .. | dotSegment .. | stopping | stopped =>
    "guest_gateway::http::server"
  | sending .. | sendFailed .. => "guest_gateway::proxy::forward"
  | signalled .. => "guest_gateway::lifecycle::signals"

def message : Event → Text
  | starting => "guest-gateway v0.1.0 starting"
  | configured .. => "Configuration loaded"
  | credentialLoaded .. => "Loaded upstream credential"
  | credentialUnavailable .. =>
    "Upstream credential unavailable, forwarding with an empty bearer token"
  | credentialUnfit =>
    "Upstream credential is not a valid header value, sending an empty bearer token"
  | staleRemoved .. => "Removed stale socket file"
  | staleKept .. => "Could not remove stale socket file"
  | bound .. => "Listener bound"
  | cannotStart .. => "Cannot start without a listener"
  | proxyConfigured .. => "Proxy configured"
  | serving .. => "HTTP server starting"
  | dotSegment .. => "Rejected path with dot segment"
  | sending .. => "Send request to upstream"
  | sendFailed .. => "Upstream request failed"
  | signalled .interrupt => "Received SIGINT"
  | signalled .terminate => "Received SIGTERM"
  | stopping => "Shutdown signal received"
  | stopped => "HTTP server stopped"
  | finished => "Shutdown complete"

def fields : Event → List (Text × FieldValue)
  | configured socket baseUrl => [("socket", .shown socket), ("upstream", .shown baseUrl)]
  | credentialLoaded name => [("variable", .quoted name)]
  | credentialUnavailable name reason =>
    [("variable", .quoted name), ("reason", .shown reason)]
  | staleRemoved path | bound path | dotSegment path => [("path", .shown path)]
  | staleKept path error => [("path", .shown path), ("error", .shown error)]
  | cannotStart error => [("error", .shown error)]
  | proxyConfigured baseUrl pathStart basePath credentialPresent =>
    [("upstream", .shown baseUrl), ("prefix", .shown pathStart), ("base_path", .shown basePath),
      ("credential_present", .flag credentialPresent)]
  | serving socket => [("socket", .shown socket)]
  | sending method url => [("method", .shown method), ("url", .shown url)]
  | sendFailed url error => [("url", .shown url), ("error", .shown error)]
  | _ => []

end Event

end CredentialGateway.Log
