import CredentialGateway.Gateway

/-!
# One call on its way

A call is what a caller sends on a connection of its own, from the moment the connection is there
to the last byte of the answer.  It goes on in steps, and between any two of them other calls may go
on: the request is read, judged, sent, replied to, and answered.

A step that does not fit the stage of the call cannot happen.  The only ones that are not up to the
gateway are whether a request arrives at the service, and the reply.

A connection has one call here.  Requests that a caller sends behind the first, on a connection that
stays open, are left out.
-/

namespace CredentialGateway

/-- A request as it was read, with its body. -/
structure Asked where
  incoming : Http.Incoming
  body : BodyStream
  deriving DecidableEq

/-- How far a call has come. -/
inductive Call
  | connected (bytes : Bytes)
  | read (q : Asked)
  /-- To be forwarded. -/
  | admitted (q : Asked) (o : Outbound)
  /-- With the service, which has not replied. -/
  | waiting (q : Asked) (o : Outbound)
  /-- The response is there, for a request that could be read or for one that could not. -/
  | answered (q : Option Asked) (r : Response)
  /-- Over: the caller has the response, or there is none to be had: it never sent a whole request, or
  the head of the response could not be written. -/
  | over (r : Option Response)
  deriving DecidableEq

namespace Call

/-- What happens to a call. -/
inductive Step
  | read
  | judge
  /-- The request goes out, and arrives or does not. -/
  | send (arrives : Bool)
  | reply (r : Reply)
  | deliver
  /-- The connection is closed, because the response cannot be written. -/
  | close
  deriving DecidableEq

/-- A call after a step, what reached the service in it, and what was reported. -/
structure Progress where
  call : Call
  sent : Option Sent := none
  events : List Log.Event := []
  deriving DecidableEq

/-! ## The steps -/

/-- The request of a connection is read. -/
def reading (bytes : Bytes) : Call :=
  match Http.request bytes with
  | .error .incomplete => .over none
  | .error (.refused r) => .answered none (Http.refusal r)
  | .ok (incoming, rest) =>
    let (body, complete) := Http.readBody incoming.framing rest
    .read ⟨incoming, ⟨body, complete, incoming.framing = .length 0⟩⟩

/-- A request with an answer, which has no body if the method wants none. -/
def answering (q : Asked) (r : Response) : Call :=
  .answered (some q) (r.toMethod q.incoming.head.method)

/-- A request is judged. -/
def judging (g : Gateway) (credential : Credential) (q : Asked) : Progress :=
  let (authorization, unfit) := credential.header
  match g.judge authorization q.incoming.head with
  | .notServed => { call := answering q .notFound }
  | .dotSegment =>
    { call := answering q .notFound, events := [.dotSegment q.incoming.head.uri.path] }
  | .forward o => { call := .admitted q o, events := unfit }

/-- A request goes out. -/
def sending (q : Asked) (o : Outbound) (arrives : Bool) : Progress :=
  if !o.isSendable then
    { call := answering q .badGateway, events := [o.sending, o.failed .url] }
  else if arrives then
    { call := .waiting q o, sent := some (o.sent q.body), events := [o.sending] }
  else
    { call := answering q (o.response .unreachable)
      events := o.sending :: o.reported .unreachable }

/-- The response as it goes out on the connection, which is closed after it if `closing`; `none` if
it cannot be written. -/
def delivered (closing : Bool) (q : Option Asked) (r : Response) : Option Response :=
  match q with
  | some q =>
    Http.overConnection { q.incoming with keepAlive := q.incoming.keepAlive && !closing } r
  | none => some r

/-- A call after a step, if the step fits its stage.  `closing` says that connections do not stay
open. -/
def step? (g : Gateway) (credential : Credential) (closing : Bool) : Call → Step → Option Progress
  | .connected bytes, .read => some { call := reading bytes }
  | .read q, .judge => some (judging g credential q)
  | .admitted q o, .send arrives => some (sending q o arrives)
  | .waiting q o, .reply r =>
    if r = .unreachable then none
    else some { call := answering q (o.response r), events := o.reported r }
  | .answered q r, .deliver => (delivered closing q r).map fun r => { call := .over (some r) }
  | .answered q r, .close =>
    if (delivered closing q r).isNone then some { call := .over none } else none
  | _, _ => none

/-- Nothing more happens to the call. -/
def isOver : Call → Bool
  | .over _ => true
  | _ => false

/-- What the service is about to get. -/
def outgoing? : Call → Option Sent
  | .admitted q o => if o.isSendable then some (o.sent q.body) else none
  | _ => none

/-- What the caller has got. -/
def response? : Call → Option Response
  | .over r => r
  | _ => none

end Call

end CredentialGateway
