import CredentialGateway.Config.Load

/-!
# The command line

Four options override the configuration: the socket, the configuration file, the log level, and a
flag for JSON logs.  An option takes its value from the same argument or from the next one, and
may be given once.  What is wrong with an option whose value is the next argument shows when the
next option is read or the arguments end; an argument that belongs to nothing shows at once.
Arguments are texts here; those in bytes that are no UTF-8 are not modelled.
-/

namespace CredentialGateway

/-- The options that take a value. -/
inductive CliOption
  | socket
  | config
  | logLevel
  deriving DecidableEq, Repr

/-- Everything that can be given once. -/
inductive CliName
  | option (o : CliOption)
  | jsonLogs
  deriving DecidableEq, Repr

/-- The cause why arguments are no command line, or a question that they ask instead. -/
inductive CliError
  | unknown (arg : Text)
  | missingValue (o : CliOption)
  | repeated (n : CliName)
  | surplusValue (value flag : Text)
  | help
  | version
  deriving DecidableEq, Repr

namespace CliOption

/-- The option with the sign that stands for its value. -/
def usage : CliOption → Text
  | socket => "--socket <SOCKET>"
  | config => "--config <CONFIG>"
  | logLevel => "--log-level <LOG_LEVEL>"

/-- Paths must not be empty; a log level may be. -/
def wantsText : CliOption → Bool
  | logLevel => false
  | _ => true

end CliOption

def CliName.usage : CliName → Text
  | option o => o.usage
  | jsonLogs => "--json-logs"

/-- What is given on the command line. -/
structure CommandLine where
  socket : Option Text := none
  config : Option Text := none
  logLevel : Option Text := none
  jsonLogs : Bool := false
  deriving DecidableEq, Repr

namespace CliError

def helpText : Text := Text.join "\n" [
  "Credential-injecting gateway on a Unix domain socket",
  "",
  "Usage: guest-gateway [OPTIONS]",
  "",
  "Options:",
  "  -s, --socket <SOCKET>        Unix domain socket to listen on [default: /run/guest/volumes-service.sock]",
  "  -c, --config <CONFIG>        Optional TOML configuration file",
  "      --log-level <LOG_LEVEL>  Log level for the gateway and its access log",
  "      --json-logs              Emit logs as JSON lines",
  "  -h, --help                   Print help",
  "  -V, --version                Print version",
  ""]

/-- The first line of the error, or the whole answer to a question. -/
def message : CliError → Text
  | unknown arg => "error: unexpected argument '".toList ++ arg ++ "' found"
  | missingValue o =>
    "error: a value is required for '".toList ++ o.usage ++ "' but none was supplied"
  | repeated n => "error: the argument '".toList ++ n.usage ++ "' cannot be used multiple times"
  | surplusValue value flag => "error: unexpected value '".toList ++ value ++ "' for '" ++ flag ++
      "' found; no more were expected"
  | help => helpText
  | version => "guest-gateway 0.1.0\n"

end CliError

namespace CommandLine

/-! ## Algorithm -/

/-- The value that an option has got. -/
def value? (c : CommandLine) : CliOption → Option Text
  | .socket => c.socket
  | .config => c.config
  | .logLevel => c.logLevel

def setValue (c : CommandLine) (o : CliOption) (v : Text) : CommandLine :=
  match o with
  | .socket => { c with socket := some v }
  | .config => { c with config := some v }
  | .logLevel => { c with logLevel := some v }

/-- Gives an option its value. -/
def give (c : CommandLine) (o : CliOption) (v : Option Text) : Except CliError CommandLine :=
  match v with
  | none => .error (.missingValue o)
  | some v =>
    if (c.value? o).isSome then .error (.repeated (.option o))
    else if v = [] && o.wantsText then .error (.missingValue o)
    else .ok (c.setValue o v)

/-- Raises the flag for JSON logs. -/
def raise (c : CommandLine) : Except CliError CommandLine :=
  if c.jsonLogs then .error (.repeated .jsonLogs) else .ok { c with jsonLogs := true }

/-- What has been read: what is settled, and an option with the value that the argument behind it
gives, not yet looked at. -/
structure Reading where
  settled : CommandLine := {}
  pending : Option (CliOption × Option Text) := none

namespace Reading

/-- Settles what is pending. -/
def settle (r : Reading) : Except CliError CommandLine :=
  match r.pending with
  | none => .ok r.settled
  | some (o, v) => r.settled.give o v

end Reading

/-- What a long name means. -/
inductive Meaning
  | option (o : CliOption)
  | jsonLogs
  | help
  | version
  deriving DecidableEq, Repr

def longMeaning? (name : Text) : Option Meaning :=
  if name = "socket" then some (.option .socket)
  else if name = "config" then some (.option .config)
  else if name = "log-level" then some (.option .logLevel)
  else if name = "json-logs" then some .jsonLogs
  else if name = "help" then some .help
  else if name = "version" then some .version
  else none

def shortMeaning? (c : Char) : Option Meaning :=
  if c = 's' then some (.option .socket)
  else if c = 'c' then some (.option .config)
  else if c = 'h' then some .help
  else if c = 'V' then some .version
  else none

/-- An argument that cannot be a value: a dash with something behind it. -/
def isDashed : Text → Bool
  | '-' :: _ :: _ => true
  | _ => false

/-- The value that the next argument gives, if it can be one, and the arguments behind it. -/
def nextValue : List Text → Option Text × List Text
  | [] => (none, [])
  | v :: rest => if isDashed v then (none, v :: rest) else (some v, rest)

theorem length_nextValue (args : List Text) : (nextValue args).2.length ≤ args.length := by
  unfold nextValue
  split
  · simp
  · split <;> simp

/-- A long option with its value, if it has one in the same argument. -/
def readLong (r : Reading) (name : Text) (value : Option Text) (rest : List Text) :
    Except CliError (Reading × List Text) :=
  match longMeaning? name with
  | none => .error (.unknown ("--" ++ name))
  | some meaning => do
    let c ← r.settle
    match meaning, value with
    | .option o, some v => return (⟨← c.give o (some v), none⟩, rest)
    | .option o, none => return (⟨c, some (o, (nextValue rest).1)⟩, (nextValue rest).2)
    | _, some v => throw (.surplusValue v ("--" ++ name))
    | .jsonLogs, none => return (⟨← c.raise, none⟩, rest)
    | .help, none => throw .help
    | .version, none => throw .version

/-- A short option; what stands behind its letter is its value, without an equals sign. -/
def readShort (r : Reading) (letter : Char) (behind : Text) (rest : List Text) :
    Except CliError (Reading × List Text) :=
  match shortMeaning? letter with
  | none => .error (.unknown ['-', letter])
  | some meaning => do
    let c ← r.settle
    match meaning with
    | .option o =>
      match behind with
      | [] => return (⟨c, some (o, (nextValue rest).1)⟩, (nextValue rest).2)
      | '=' :: v => return (⟨← c.give o (some v), none⟩, rest)
      | v => return (⟨← c.give o (some v), none⟩, rest)
    | .version => throw .version
    | _ => throw .help

/-- Reads one argument, and the next one if that is its value. -/
def readArgument (r : Reading) (arg : Text) (rest : List Text) :
    Except CliError (Reading × List Text) :=
  match arg with
  | ['-', '-'] =>
    match rest with
    | [] => .ok (r, [])
    | next :: _ => .error (.unknown next)
  | '-' :: '-' :: name => readLong r (Text.cut '=' name).1 (Text.cut '=' name).2 rest
  | '-' :: letter :: behind => readShort r letter behind rest
  | _ => .error (.unknown arg)

theorem length_readLong {r r' : Reading} {name : Text} {value : Option Text}
    {rest rest' : List Text}
    (h : readLong r name value rest = .ok (r', rest')) : rest'.length ≤ rest.length := by
  have hn := length_nextValue rest
  unfold readLong at h
  split at h
  · simp at h
  · cases hs : r.settle with
    | error e => simp [hs, bind, Except.bind] at h
    | ok c =>
      simp only [hs, bind, Except.bind] at h
      split at h
      · split at h
        · simp at h
        · simp [pure, Except.pure] at h; simp [h.2]
      · simp [pure, Except.pure] at h; simp [← h.2, hn]
      · simp [throw, throwThe, MonadExceptOf.throw] at h
      · split at h
        · simp at h
        · simp [pure, Except.pure] at h; simp [h.2]
      · simp [throw, throwThe, MonadExceptOf.throw] at h
      · simp [throw, throwThe, MonadExceptOf.throw] at h

theorem length_readShort {r r' : Reading} {letter : Char} {behind : Text} {rest rest' : List Text}
    (h : readShort r letter behind rest = .ok (r', rest')) : rest'.length ≤ rest.length := by
  have hn := length_nextValue rest
  unfold readShort at h
  split at h
  · simp at h
  · cases hs : r.settle with
    | error e => simp [hs, bind, Except.bind] at h
    | ok c =>
      simp only [hs, bind, Except.bind] at h
      split at h
      · split at h
        · simp [pure, Except.pure] at h; simp [← h.2, hn]
        · split at h
          · simp at h
          · simp [pure, Except.pure] at h; simp [h.2]
        · split at h
          · simp at h
          · simp [pure, Except.pure] at h; simp [h.2]
      · simp [throw, throwThe, MonadExceptOf.throw] at h
      · simp [throw, throwThe, MonadExceptOf.throw] at h

theorem length_readArgument {r r' : Reading} {arg : Text} {rest rest' : List Text}
    (h : readArgument r arg rest = .ok (r', rest')) : rest'.length ≤ rest.length := by
  unfold readArgument at h
  split at h
  · split at h
    · simp at h; simp [h.2]
    · simp at h
  · exact length_readLong h
  · exact length_readShort h
  · simp at h

/-- Reads the arguments. -/
def read (r : Reading) : List Text → Except CliError CommandLine
  | [] => r.settle
  | arg :: args =>
    match _h : readArgument r arg args with
    | .error e => .error e
    | .ok (r, rest) => read r rest
termination_by args => args.length
decreasing_by exact Nat.lt_succ_of_le (length_readArgument _h)

/-- The command line that the arguments write. -/
def parse (args : List Text) : Except CliError CommandLine := read {} args

/-- The configuration with what the command line overrides. -/
def override (c : CommandLine) (base : GatewayConfig) : GatewayConfig :=
  { base with
    listener := ⟨c.socket.getD base.listener.socketPath⟩
    observability := {
      logLevel := c.logLevel.getD base.observability.logLevel
      format := if c.jsonLogs then .json else base.observability.format } }

/-- The configuration that is in effect: the file's, or the defaults, with the command line's. -/
def resolve (c : CommandLine) (tree : FileTree) (home : Location) :
    Except ConfigError GatewayConfig := do
  let base ← match c.config with
    | some path => GatewayConfig.load tree home path
    | none => .ok {}
  GatewayConfig.check (c.override base)

end CommandLine

end CredentialGateway
