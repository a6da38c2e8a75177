import CredentialGateway.Call
import CredentialGateway.Listener
import CredentialGateway.StopSignal

/-!
# The server

A gateway that listens on a socket and answers any number of calls at once.  Calls share nothing
but the gateway's settings: a step of one changes no other.

The server watches a stop signal.  When it finds the signal, or finds that none can come any more,
it stops listening; calls that are there go on to their end, and only then it returns.  The entry
of its socket stays in the file tree.  A call is there as soon as its caller has connected: it is
read and answered also if none of its bytes had come before the signal, where the connection could
as well be closed unread.

    serving  --signal seen-->  draining  --no call left-->  returned
-/

namespace CredentialGateway

/-- How far the server has come. -/
inductive Server.Phase
  | serving
  | draining
  | returned
  deriving DecidableEq, Repr

structure Server where
  gateway : Gateway
  credential : Credential
  /-- The path of the socket. -/
  socket : Text
  harbour : Harbour
  signal : StopSignal
  phase : Server.Phase
  /-- The calls so far, each with its number. -/
  calls : List (Nat × Call) := []
  /-- What has reached the service, and for which call. -/
  reached : List (Nat × Sent) := []
  log : List Log.Event := []

namespace Server

/-- What happens to a server. -/
inductive Step
  /-- The stop signal is given. -/
  | trigger
  /-- Whoever could give the stop signal goes away. -/
  | abandon
  /-- The server looks at the stop signal. -/
  | look
  /-- A caller connects and sends these bytes. -/
  | connect (id : Nat) (bytes : Bytes)
  | call (id : Nat) (s : Call.Step)
  | finish
  deriving DecidableEq

/-- The name under which the server holds its listener and watches the signal. -/
def holder : Text := "server"

/-! ## The steps -/

/-- A server on a listener that is bound; `credential` is what it forwards with. -/
def start (gateway : Gateway) (credential : Credential) (socket : Text) (harbour : Harbour) :
    Server where
  gateway
  credential
  socket
  harbour
  signal := ({} : StopSignal).subscribe holder
  phase := .serving
  log := [.serving socket]

def call? (s : Server) (id : Nat) : Option Call := s.calls.lookup id

/-- The server with another stage of a call. -/
def put (s : Server) (id : Nat) (c : Call) : Server :=
  { s with calls := s.calls.map fun (i, old) => if i = id then (i, c) else (i, old) }

/-- The server no longer listens. -/
def stopListening (s : Server) : Server :=
  { s with
    harbour := s.harbour.close holder, phase := .draining
    signal := s.signal.drop holder, log := s.log ++ [.stopping] }

/-- The server after a step, if the step can happen. -/
def step? (s : Server) : Step → Option Server
  | .trigger => some { s with signal := (s.signal.step .trigger).2 }
  | .abandon => some { s with signal := (s.signal.step .dropCoordinator).2 }
  | .look =>
    match (s.signal.receive holder).1 with
    | some .pending | none => none
    | some _ => some s.stopListening
  | .connect id bytes =>
    if s.phase = .serving && (s.call? id).isNone then
      some { s with calls := s.calls ++ [(id, .connected bytes)] }
    else none
  | .call id step => do
    let p ← (← s.call? id).step? s.gateway s.credential (s.phase ≠ .serving) step
    return { s.put id p.call with
      reached := s.reached ++ (p.sent.map (id, ·)).toList, log := s.log ++ p.events }
  | .finish =>
    if s.phase = .draining && s.calls.all (·.2.isOver) then
      some { s with phase := .returned, log := s.log ++ [.stopped] }
    else none

/-- The server after a list of steps, if each of them can happen. -/
def run? (s : Server) (steps : List Step) : Option Server := steps.foldlM step? s

/-- The server after a step, or as it is if the step cannot happen. -/
def attempt (s : Server) (step : Step) : Server := (s.step? step).getD s

/-! ## One call after the other -/

/-- A caller connects, sends its bytes and has its answer before anything else happens. -/
def exchange (s : Server) (service : Service) (bytes : Bytes) :
    Option Outbound.Forwarded × Server :=
  let id := s.calls.length
  let s' := ((s.attempt (.connect id bytes)).attempt (.call id .read)).attempt (.call id .judge)
  let reply := ((s'.call? id).bind Call.outgoing?).elim .unreachable (service s.reached.length)
  let s' := (s'.attempt (.call id (.send (reply ≠ .unreachable)))).attempt (.call id (.reply reply))
  let s' := (s'.attempt (.call id .deliver)).attempt (.call id .close)
  (((s'.call? id).bind Call.response?).map fun r =>
    ⟨r, s'.reached.lookup id, s'.log.drop s.log.length⟩, s')

/-- Callers come one after the other. -/
def exchanges (s : Server) (service : Service) :
    List Bytes → List (Option Outbound.Forwarded) × Server
  | [] => ([], s)
  | bytes :: rest =>
    let (answer, s) := s.exchange service bytes
    let (answers, s) := s.exchanges service rest
    (answer :: answers, s)

/-- The signal is given, or can come no more, and the server goes on to its end. -/
def stop (s : Server) (signal : Step) : Server :=
  ((s.attempt signal).attempt .look).attempt .finish

end Server

end CredentialGateway
