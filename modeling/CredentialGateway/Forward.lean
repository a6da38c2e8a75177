import CredentialGateway.Http.Framing
import CredentialGateway.Http.Message
import CredentialGateway.Log.Event
import CredentialGateway.Target

/-!
# The hop to the service

A forwarded request is written to the service and its reply relayed: status and headers as they
are, hop-by-hop headers apart, and the body as far as it comes.  Redirects are not followed and
nothing is tried twice.  A request that cannot be sent, or gets no reply, is answered 502.

The client adds what the hop needs: `Accept` if there is none, and the framing of the body.  A
length that the caller gave is kept and cuts the body; without one the body goes in chunks, but for
the methods that rarely have one it is left out.
-/

namespace CredentialGateway

/-- The body of a request as it comes in: a stream that may have broken off. -/
structure BodyStream where
  bytes : Bytes := []
  complete : Bool := true
  /-- It was known beforehand that there are no bytes. -/
  absent : Bool := true
  deriving DecidableEq

/-- A request as the service reads it from the wire; the body is missing if it was cut short. -/
structure Sent where
  method : Text
  target : Text
  headers : Headers
  body : Option Bytes
  deriving DecidableEq

/-- What comes back from the service. -/
inductive Reply
  /-- The request does not arrive. -/
  | unreachable
  /-- The request arrives, but no valid answer comes. -/
  | hangUp
  | response (status : Nat) (headers : Headers) (body : Bytes) (complete : Bool)
  deriving DecidableEq

/-- The service, seen from the gateway: its reply to the n-th request that reaches it. -/
abbrev Service := Nat → Sent → Reply

/-- A service that no connection reaches. -/
def Service.unreachable : Service := fun _ _ => .unreachable

/-- The cause why a request has no reply. -/
inductive SendFault
  /-- The URL is none that a request can be sent to. -/
  | url
  | noReply
  deriving DecidableEq, Repr

namespace SendFault

/-- The text of the fault; it names the URL without user name and password. -/
def message (f : SendFault) (u : Url) : Text :=
  (match f with
    | url => "builder error for url ("
    | noReply => "error sending request for url (").toList ++ u.withoutUser.text ++ ")"

end SendFault

namespace Outbound

/-! ## Algorithm -/

/-- A request can be sent to a URL of the web whose text is a request URI. -/
def isSendable (o : Outbound) : Bool :=
  (o.url.scheme = "http" || o.url.scheme = "https") &&
    (RequestUri.parse o.url.withoutUser.text.utf8).isOk

/-- What the first line of a request asks for: path and query, or the other end of a tunnel. -/
def wireTarget (method : Text) (u : Url) : Text :=
  if method = "CONNECT" then u.authority.elim [] Authority.hostPort
  else u.path ++ Url.marked '?' u.query

def anything : HeaderValue := ⟨Text.utf8 "*/*", false, by decide⟩

/-- A body of unknown length is left out for these methods. -/
def rarelyHasBody (method : Text) : Bool := method = "GET" || method = "HEAD" || method = "CONNECT"

/-- The headers that frame the body, and the body as it arrives. -/
def framed (method : Text) (h : Headers) (b : BodyStream) : Headers × Option Bytes :=
  if b.absent then (h, some [])
  else match Http.givenLength? h with
    | some n => (h, if n ≤ b.bytes.length then some (b.bytes.take n) else none)
    | none =>
      if rarelyHasBody method then (h, some [])
      else (h.append .transferEncoding Http.chunkedValue, if b.complete then some b.bytes else none)

/-- The request as the service reads it. -/
def sent (o : Outbound) (b : BodyStream) : Sent :=
  let h := if o.headers.contains .accept then o.headers else o.headers.append .accept anything
  let (headers, body) := framed o.method h b
  ⟨o.method, wireTarget o.method o.url, headers, body⟩

/-- The reply as the caller gets it. -/
def relay (method : Text) (status : Nat) (h : Headers) (body : Bytes) (complete : Bool) :
    Response :=
  if Http.isBodiless method status then { status, headers := h.withoutHopByHop }
  else { status, headers := h.withoutHopByHop, body, complete }

/-- The outcome of forwarding: the response, what reached the service, and what was reported. -/
structure Forwarded where
  response : Response
  sent : Option Sent
  events : List Log.Event
  deriving DecidableEq

/-- The event that reports a request on its way. -/
def sending (o : Outbound) : Log.Event := .sending o.method o.url.text

/-- The event that reports a request without a reply. -/
def failed (o : Outbound) (f : SendFault) : Log.Event := .sendFailed o.url.text (f.message o.url)

/-- What the caller gets for the service's reply. -/
def response (o : Outbound) : Reply → Response
  | .response status h body complete => relay o.method status h body complete
  | .hangUp | .unreachable => .badGateway

/-- What is reported about a reply. -/
def reported (o : Outbound) : Reply → List Log.Event
  | .response .. => []
  | .hangUp | .unreachable => [o.failed .noReply]

/-- Sends the request, as the n-th that reaches the service, and relays the reply. -/
def forward (o : Outbound) (b : BodyStream) (service : Service) (n : Nat) : Forwarded :=
  if o.isSendable then
    let reply := service n (o.sent b)
    ⟨o.response reply, if reply = .unreachable then none else some (o.sent b),
      o.sending :: o.reported reply⟩
  else ⟨.badGateway, none, [o.sending, o.failed .url]⟩

end Outbound

end CredentialGateway
