import CredentialGateway.Config.Basic
import CredentialGateway.Header.Basic
import CredentialGateway.Path.DotSegment
import CredentialGateway.Text.Blank
import CredentialGateway.Text.Quoted
import CredentialGateway.Url.Parser

/-!
# Validation

A configuration is checked field by field, in a fixed order, and every problem is reported.  The
checks of one field look at no other.
-/

namespace CredentialGateway

/-- The fields that can be at fault. -/
inductive ConfigField
  | socketPath
  | baseUrl
  | pathStart
  | basePath
  | credentialEnv
  | contentType
  deriving DecidableEq, Repr

def ConfigField.text : ConfigField → Text
  | socketPath => "listener.socket_path"
  | baseUrl => "upstream.base_url"
  | pathStart => "upstream.prefix"
  | basePath => "upstream.base_path"
  | credentialEnv => "upstream.credential_env"
  | contentType => "upstream.content_type"

/-- What can be wrong with a field. -/
inductive ProblemCause
  | emptyPath
  | url (e : UrlError)
  | scheme (name : Text)
  | hostMissing
  | noSlash
  | noSegment
  | dotSegment
  | noVariable
  | headerValue
  deriving DecidableEq, Repr

def ProblemCause.message : ProblemCause → Text
  | emptyPath => "must not be empty"
  | url e => e.message
  | scheme name => "unsupported scheme '".toList ++ name ++ "'"
  | hostMissing => "missing host"
  | noSlash => "must start with '/'"
  | noSegment => "must name a path segment and not end with '/'"
  | dotSegment => "must not contain '.' or '..' segments"
  | noVariable => "must name an environment variable"
  | headerValue => "not a valid header value"

structure Problem where
  field : ConfigField
  cause : ProblemCause
  deriving DecidableEq, Repr

namespace Problem

def message (p : Problem) : Text := p.cause.message

def text (p : Problem) : Text := p.field.text ++ ": " ++ p.message

/-- What diagnostics show of a problem. -/
def shown (p : Problem) : Text :=
  "ValidationError \x7b field: ".toList ++ Text.quoted p.field.text ++ ", message: " ++
    Text.quoted p.message ++ " \x7d"

end Problem

namespace GatewayConfig

/-- What is wrong with the socket path. -/
def socketPathCauses (path : Text) : List ProblemCause := if path = [] then [.emptyPath] else []

/-- What is wrong with the base URL. -/
def baseUrlCauses (t : Text) : List ProblemCause :=
  match Url.parse t with
  | .error e => [.url e]
  | .ok u =>
    (if u.scheme = "http" || u.scheme = "https" then [] else [.scheme u.scheme]) ++
      if u.authority.isNone then [.hostMissing] else []

/-- What is wrong with the path under which requests are forwarded. -/
def pathStartCauses (t : Text) : List ProblemCause :=
  if t.head? ≠ some '/' then [.noSlash]
  else if t.getLast? = some '/' then [.noSegment]
  else []

/-- What is wrong with the path that replaces it. -/
def basePathCauses (t : Text) : List ProblemCause :=
  if t.head? ≠ some '/' then [.noSlash]
  else if Path.hasDotSegment t then [.dotSegment]
  else []

/-- What is wrong with the name of the variable. -/
def credentialEnvCauses (t : Text) : List ProblemCause :=
  if t.all Text.isBlank then [.noVariable] else []

/-- What is wrong with the content type. -/
def contentTypeCauses (t : Text) : List ProblemCause :=
  if (HeaderValue.ofText? t).isNone then [.headerValue] else []

/-- Everything that is wrong with a configuration. -/
def problems (c : GatewayConfig) : List Problem :=
  (socketPathCauses c.listener.socketPath).map (⟨.socketPath, ·⟩) ++
  (baseUrlCauses c.service.baseUrl).map (⟨.baseUrl, ·⟩) ++
  (pathStartCauses c.service.pathStart).map (⟨.pathStart, ·⟩) ++
  (basePathCauses c.service.basePath).map (⟨.basePath, ·⟩) ++
  (credentialEnvCauses c.service.credentialEnv).map (⟨.credentialEnv, ·⟩) ++
  (contentTypeCauses c.service.contentType).map (⟨.contentType, ·⟩)

/-- The configuration has no problem. -/
def isValid (c : GatewayConfig) : Bool := c.problems.isEmpty

end GatewayConfig

end CredentialGateway
