import CredentialGateway.Config.Basic
import CredentialGateway.Header.HopByHop
import CredentialGateway.RequestUri
import CredentialGateway.Text.Replace
import CredentialGateway.Url.Parser

/-!
# The forwarding target

The one service that requests go to.  A request that is forwarded keeps its method, its query and
the headers that may cross; host, content type and credential are the gateway's own, and so is the
destination.  In the path every occurrence of the forwarded start is replaced by the base path,
and the result is set behind the path of the base URL.
-/

namespace CredentialGateway

/-- The first line and the headers of a request. -/
structure RequestHead where
  method : Text
  uri : RequestUri
  headers : Headers
  deriving DecidableEq

structure Target where
  base : Url
  /-- Host and port, as the `Host` header gives them. -/
  host : HeaderValue
  pathStart : Text
  basePath : Text
  contentType : HeaderValue
  deriving DecidableEq

/-- A request as it leaves the gateway. -/
structure Outbound where
  method : Text
  url : Url
  headers : Headers
  deriving DecidableEq

/-- The cause why a configuration gives no target. -/
inductive TargetCause
  | url (e : UrlError)
  | hostMissing
  | hostValue
  | contentType
  deriving DecidableEq, Repr

def TargetCause.message : TargetCause → Text
  | url e => e.message
  | hostMissing => "missing host"
  | hostValue => "failed to parse header value"
  | contentType => "content type: failed to parse header value"

structure TargetError where
  baseUrl : Text
  cause : TargetCause
  deriving DecidableEq, Repr

def TargetError.message (e : TargetError) : Text :=
  "invalid upstream URL '".toList ++ e.baseUrl ++ "': " ++ e.cause.message

namespace Target

/-! ## Algorithm -/

/-- Reads the parts of a target. -/
def ofConfigCause (c : ServiceConfig) : Except TargetCause Target := do
  let base ← (Url.parse c.baseUrl).mapError .url
  let some authority := base.authority | throw .hostMissing
  let some host := HeaderValue.ofText? authority.hostPort | throw .hostValue
  let some contentType := HeaderValue.ofText? c.contentType | throw .contentType
  return { base, host, pathStart := c.pathStart, basePath := c.basePath, contentType }

def ofConfig (c : ServiceConfig) : Except TargetError Target :=
  (ofConfigCause c).mapError (⟨c.baseUrl, ·⟩)

/-- Every occurrence of the forwarded start becomes the base path. -/
def relocate (path pathStart basePath : Text) : Text := Text.replaceAll pathStart basePath path

/-- The headers of a forwarded request. -/
def headers (t : Target) (authorization : HeaderValue) (h : Headers) : Headers :=
  ((h.withoutHopByHop.insert .host t.host).insert .contentType t.contentType).insert
    .authorization authorization

/-- The path of a forwarded request, before the URL takes it in. -/
def joinedPath (t : Target) (path : Text) : Text :=
  Text.dropTrailing '/' t.base.path ++ relocate path t.pathStart t.basePath

/-- The URL of a forwarded request. -/
def url (t : Target) (uri : RequestUri) : Url :=
  (t.base.withPath (t.joinedPath uri.path)).withQuery uri.query

/-- The request as it leaves the gateway, with the credential's header value. -/
def outbound (t : Target) (authorization : HeaderValue) (r : RequestHead) : Outbound :=
  { method := r.method, url := t.url r.uri, headers := t.headers authorization r.headers }

end Target

end CredentialGateway
