import CredentialGateway.Credential
import CredentialGateway.Forward
import CredentialGateway.Http.Hop
import CredentialGateway.Path.DotSegment
import CredentialGateway.PathPattern

/-!
# The gateway

A request is admitted if its path is served and has no dot segment; it then gets the
gateway's credential and is forwarded.  Every other request is answered 404 and goes nowhere.
-/

namespace CredentialGateway

structure Gateway where
  target : Target
  pattern : PathPattern
  deriving DecidableEq

/-- The cause why a configuration gives no gateway. -/
inductive GatewayError
  | target (e : TargetError)
  | pattern
  deriving DecidableEq, Repr

/-- What becomes of a request. -/
inductive Verdict
  | notServed
  | dotSegment
  | forward (o : Outbound)
  deriving DecidableEq

namespace Gateway

/-! ## Starting -/

def ofConfig (c : ServiceConfig) : Except GatewayError Gateway := do
  let target ← (Target.ofConfig c).mapError .target
  match PathPattern.parse? c.pathStart with
  | some pattern => return ⟨target, pattern⟩
  | none => throw .pattern

/-- The event that reports how the gateway is set up. -/
def configured (c : ServiceConfig) (credential : Credential) : Log.Event :=
  .proxyConfigured c.baseUrl c.pathStart c.basePath (!credential.isEmpty)

/-! ## One request -/

/-- Decides about a request; what is forwarded carries the given credential header. -/
def judge (g : Gateway) (authorization : HeaderValue) (r : RequestHead) : Verdict :=
  if !g.pattern.serves r.uri.path then .notServed
  else if Path.hasDotSegment r.uri.path then .dotSegment
  else .forward (g.target.outbound authorization r)

/-- Answers a request, as the n-th that may reach the service. -/
def answer (g : Gateway) (credential : Credential) (service : Service) (n : Nat) (r : RequestHead)
    (body : BodyStream) : Outbound.Forwarded :=
  let (authorization, unfit) := credential.header
  match g.judge authorization r with
  | .notServed => ⟨Response.notFound.toMethod r.method, none, []⟩
  | .dotSegment => ⟨Response.notFound.toMethod r.method, none, [.dotSegment r.uri.path]⟩
  | .forward o =>
    let f := o.forward body service n
    { f with response := f.response.toMethod r.method, events := unfit ++ f.events }

/-! ## Connections -/

/-- What a caller gets for the bytes it sends on a connection of its own; `none` if it never sends
a whole request head, or the head of its response cannot be written. -/
def answerBytes (g : Gateway) (credential : Credential) (service : Service) (n : Nat)
    (bytes : Bytes) : Option Outbound.Forwarded :=
  match Http.request bytes with
  | .error .incomplete => none
  | .error (.refused r) => some ⟨Http.refusal r, none, []⟩
  | .ok (incoming, rest) =>
    let (body, complete) := Http.readBody incoming.framing rest
    let stream : BodyStream := ⟨body, complete, incoming.framing = .length 0⟩
    let f := g.answer credential service n incoming.head stream
    (Http.overConnection incoming f.response).map fun response => { f with response }

end Gateway

end CredentialGateway
