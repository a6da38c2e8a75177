import CredentialGateway.Config.Basic
import CredentialGateway.Text.Quoted
import CredentialGateway.Toml.Value

/-!
# Configurations from tables

The entries of a document replace the defaults of the fields they name, in the order in which they
stand; an entry that names no field is passed over.  A section may also be an array of its fields
in their fixed order, and the log format may be a table whose one key names it.
-/

namespace CredentialGateway

open Toml (Value Entries)

/-- What a value turned out to be. -/
inductive Found
  | integer (n : Int)
  | float (x : Binary64)
  | boolean (b : Bool)
  | string (t : Text)
  | sequence
  | map
  deriving DecidableEq, Repr

/-- What a field wants. -/
inductive Wanted
  | string
  | boolean
  | path
  | listener
  | service
  | observability
  deriving DecidableEq, Repr

/-- The cause why a document is no configuration. -/
inductive DecodeError
  | wrongType (found : Found) (wanted : Wanted)
  | unknownFormat (name : Text)
  | malformedFormat
  deriving DecidableEq, Repr

namespace Found

def ofValue : Value → Found
  | .string t => string t
  | .integer n => integer n
  | .float x => float x
  | .boolean b => boolean b
  | .dateTime => map
  | .array .. => sequence
  | .table .. => map

def text : Found → Text
  | integer n => "integer `" ++ (if n < 0 then ['-'] else []) ++ Text.ofNat n.natAbs ++ "`"
  | float x => "floating point `" ++ x.text ++ "`"
  | boolean b => "boolean `" ++ (if b then "true" else "false").toList ++ "`"
  | string t => "string " ++ Text.quoted t
  | sequence => "sequence"
  | map => "map"

end Found

def Wanted.text : Wanted → Text
  | string => "a string"
  | boolean => "a boolean"
  | path => "path string"
  | listener => "struct ListenerConfig"
  | service => "struct UpstreamConfig"
  | observability => "struct ObservabilityConfig"

/-- The text of the error, where it has one of its own. -/
def DecodeError.message : DecodeError → Option Text
  | wrongType found wanted =>
    some ("invalid type: ".toList ++ found.text ++ ", expected " ++ wanted.text)
  | unknownFormat name =>
    some ("unknown variant `".toList ++ name ++ "`, expected `pretty` or `json`")
  | malformedFormat => none

/-! ## Algorithm -/

/-- What can be read from a value. -/
abbrev Decoder (α : Type) := Value → Except DecodeError α

namespace Decode

def string (wanted : Wanted) : Decoder Text
  | .string t => .ok t
  | v => .error (.wrongType (.ofValue v) wanted)

def boolean : Decoder Bool
  | .boolean b => .ok b
  | v => .error (.wrongType (.ofValue v) .boolean)

/-- The format of this name. -/
def formatNamed (name : Text) : Except DecodeError LogFormat :=
  if name = "pretty" then .ok .pretty
  else if name = "json" then .ok .json
  else .error (.unknownFormat name)

/-- A value that holds nothing. -/
def isEmpty : Value → Bool
  | .array _ [] => true
  | .table _ [] => true
  | _ => false

def format : Decoder LogFormat
  | .string name => formatNamed name
  | .table _ [(name, v)] => do
    let f ← formatNamed name
    if isEmpty v then return f else throw .malformedFormat
  | _ => .error .malformedFormat

/-- Sets the field of that name; other names change nothing. -/
abbrev SetField (σ : Type) := σ → Text → Value → Except DecodeError σ

/-- Sets the fields that the entries name, one after the other. -/
def entries {σ : Type} (set : SetField σ) (start : σ) (es : Entries) : Except DecodeError σ :=
  es.foldlM (fun s (name, v) => set s name v) start

/-- A section: a table, or an array of its leading fields.  A date holds no field. -/
def section? {σ : Type} (set : SetField σ) (names : List Text) (wanted : Wanted) (start : σ) :
    Decoder σ
  | .table _ es => entries set start es
  | .array _ items => entries set start (names.zip items)
  | .dateTime => .ok start
  | v => .error (.wrongType (.ofValue v) wanted)

def setListener : SetField ListenerConfig := fun c name v => do
  if name = "socket_path" then return { c with socketPath := ← string .path v }
  else return c

def listenerNames : List Text := ["socket_path"]

def setService : SetField ServiceConfig := fun c name v => do
  if name = "base_url" then return { c with baseUrl := ← string .string v }
  else if name = "prefix" then return { c with pathStart := ← string .string v }
  else if name = "base_path" then return { c with basePath := ← string .string v }
  else if name = "credential_env" then return { c with credentialEnv := ← string .string v }
  else if name = "content_type" then return { c with contentType := ← string .string v }
  else if name = "use_env_proxy" then return { c with useEnvProxy := ← boolean v }
  else return c

def serviceNames : List Text :=
  ["base_url", "prefix", "base_path", "credential_env", "content_type", "use_env_proxy"]

def setObservability : SetField ObservabilityConfig := fun c name v => do
  if name = "log_level" then return { c with logLevel := ← string .string v }
  else if name = "format" then return { c with format := ← format v }
  else return c

def observabilityNames : List Text := ["log_level", "format"]

def setSection : SetField GatewayConfig := fun c name v => do
  if name = "listener" then
    let listener ← section? setListener listenerNames .listener {} v
    return { c with listener }
  else if name = "upstream" then
    let service ← section? setService serviceNames .service {} v
    return { c with service }
  else if name = "observability" then
    let observability ← section? setObservability observabilityNames .observability {} v
    return { c with observability }
  else return c

end Decode

/-- The configuration that the entries of a document describe. -/
def GatewayConfig.ofEntries (es : Entries) : Except DecodeError GatewayConfig :=
  Decode.entries Decode.setSection {} es

end CredentialGateway
