import CredentialGateway.CommandLine
import CredentialGateway.Log.Line
import CredentialGateway.Server

/-!
# The program

The program reads its command line and configuration, sets up its log, takes the credential from
the environment, binds its socket, and serves until a signal stops it.  A start that fails says
why on standard error and ends with status 1, a command line that is none with status 2.

The log does not begin before the configuration is there; what fails earlier is not in it.
-/

namespace CredentialGateway

/-- What the program is started with, and what happens to it while it runs. -/
structure Launch where
  args : List Text
  env : List (Text × Bytes)
  tree : FileTree
  home : Location
  /-- What callers send, each on a connection of its own. -/
  requests : List Bytes
  /-- The signal that ends a program that serves. -/
  signal : Log.Signal

/-- What can be seen of a run. -/
structure Outcome where
  status : Nat
  /-- What a question on the command line is answered with. -/
  answer : Text := []
  errors : Text := []
  format : LogFormat := .pretty
  log : List Log.Entry := []
  exchanges : List (Option Outbound.Forwarded) := []
  tree : FileTree

namespace ConfigError

/-- What diagnostics show of the error; a fault of the document is only named. -/
def shown : ConfigError → Text
  | file e => "Io(".toList ++ e.shown ++ ")"
  | syntactic | decode _ => "Parse"
  | invalid problems =>
    "Validation([".toList ++ Text.join ", " (problems.map Problem.shown) ++ "])"

end ConfigError

namespace GatewayError

/-- What diagnostics show of the error. -/
def shown : GatewayError → Text
  | target e => FileError.shownRecord "InvalidUpstream"
      [("url", Text.quoted e.baseUrl), ("reason", Text.quoted e.cause.message)]
  | pattern => "invalid route"

end GatewayError

namespace Program

/-! ## Setting up the log -/

def filterVariable : Text := "RUST_LOG"

/-- The filter: the environment's if it is one, else that of the configured level; and what is said
about directives that are none. -/
def filter (env : List (Text × Bytes)) (level : Text) : Log.Filter × List Text :=
  match (env.lookup filterVariable).bind Bytes.text? |>.bind Log.Filter.parse? with
  | some f => (f, [])
  | none => Log.Filter.parseLossy (Log.Filter.defaultText level)

/-! ## Serving -/

/-- The span of a request that was read from a connection. -/
def spanOf (bytes : Bytes) : Option Log.RequestSpan :=
  match Http.request bytes with
  | .ok (r, _) => some ⟨r.head.method, r.head.uri.text, if r.newer then "HTTP/1.1" else "HTTP/1.0"⟩
  | .error _ => none

/-- The log of an answered request. -/
def exchangeLog (f : Log.Filter) (bytes : Bytes) (x : Option Outbound.Forwarded) : List Log.Entry :=
  Log.entries f (spanOf bytes) ((x.map (·.events)).getD [])

/-- Serves one caller after the other until the signal comes. -/
def serve (l : Launch) (service : Service) (f : Log.Filter) (s : Server) (o : Outcome) : Outcome :=
  let (exchanges, served) := s.exchanges service l.requests
  let ended := served.stop .trigger
  { o with
    log := o.log ++ Log.entries f none s.log ++
      (l.requests.zip exchanges).flatMap (fun (bytes, x) => exchangeLog f bytes x) ++
      Log.entries f none ([.signalled l.signal] ++ ended.log.drop served.log.length ++ [.finished])
    exchanges
    tree := ended.harbour.tree }

/-- Runs the program with a configuration. -/
def start (l : Launch) (service : Service) (c : GatewayConfig) : Outcome :=
  let (f, ignored) := filter l.env c.observability.logLevel
  let said := ignored.flatMap (· ++ ['\n'])
  let (credential, loaded) := Credential.ofVariable c.service.credentialEnv
    (l.env.lookup c.service.credentialEnv)
  let socket := c.listener.socketPath
  let shore : Harbour := { tree := l.tree, home := l.home }
  let (bound, harbour, binding) := shore.bindAs socket Server.holder
  let opening := [.starting, .configured socket c.service.baseUrl, loaded] ++ binding
  let outcome : Outcome :=
    { status := 0, errors := said, format := c.observability.format, tree := harbour.tree }
  let failure (status : Nat) (shown : Text) (events : List Log.Event) : Outcome :=
    { outcome with
      status, errors := said ++ "Error: " ++ shown ++ "\n", log := Log.entries f none events }
  match bound with
  | .error e => failure 1 e.shown (opening ++ [.cannotStart e.message])
  | .ok () =>
    match Gateway.ofConfig c.service with
    | .error (.target e) => failure 1 (GatewayError.target e).shown opening
    | .error .pattern =>
      failure 101 GatewayError.pattern.shown (opening ++ [Gateway.configured c.service credential])
    | .ok g =>
      serve l service f (.start g credential socket harbour)
        { outcome with
          log := Log.entries f none (opening ++ [Gateway.configured c.service credential]) }

/-- A status of success belongs to an answered question. -/
def questionStatus : CliError → Nat
  | .help | .version => 0
  | _ => 2

/-- Runs the program. -/
def run (l : Launch) (service : Service) : Outcome :=
  match CommandLine.parse l.args with
  | .error e =>
    if questionStatus e = 0 then { status := 0, tree := l.tree, answer := e.message }
    else { status := questionStatus e, tree := l.tree, errors := e.message }
  | .ok line =>
    match line.resolve l.tree l.home with
    | .error e => { status := 1, tree := l.tree, errors := "Error: ".toList ++ e.shown ++ "\n" }
    | .ok c => start l service c

end Program

end CredentialGateway
