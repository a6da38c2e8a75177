import CredentialGateway.Text

/-!
# The stop signal

One coordinator, any number of receivers.  Each trigger counts; a receiver notes how many it has
seen.  Only the newest trigger is kept, so a receiver that is more than one behind first learns
how many it missed and then gets the newest.  When the coordinator is gone, a receiver that has
seen all triggers finds the channel closed.

A receiver starts behind nothing: triggers before its subscription are not for it.
-/

namespace CredentialGateway

structure StopSignal where
  /-- Triggers so far. -/
  sent : Nat := 0
  /-- The coordinator still exists. -/
  coordinated : Bool := true
  /-- The receivers, each with the number of triggers it has seen. -/
  receivers : List (Text × Nat) := []
  deriving DecidableEq, Repr

namespace StopSignal

/-- What a receiver finds when it looks without waiting. -/
inductive Reception
  | signal
  | lagged (missed : Nat)
  | pending
  | closed
  deriving DecidableEq, Repr

/-! ## Algorithm -/

/-- The number of receivers that have subscribed and not been dropped. -/
def receiverCount (s : StopSignal) : Nat := s.receivers.length

def seen? (s : StopSignal) (name : Text) : Option Nat := s.receivers.lookup name

/-- The signal without a receiver. -/
def drop (s : StopSignal) (name : Text) : StopSignal :=
  { s with receivers := s.receivers.filter (·.1 ≠ name) }

/-- A receiver notes how many triggers it has seen. -/
def note (s : StopSignal) (name : Text) (seen : Nat) : StopSignal :=
  { s with receivers := (name, seen) :: (s.drop name).receivers }

/-- A new receiver; it replaces one of the same name. -/
def subscribe (s : StopSignal) (name : Text) : StopSignal := s.note name s.sent

def trigger (s : StopSignal) : StopSignal := { s with sent := s.sent + 1 }

/-- The coordinator goes away. -/
def close (s : StopSignal) : StopSignal := { s with coordinated := false }

/-- What a receiver that has seen `seen` triggers finds, and how many it has seen then. -/
def look (s : StopSignal) (seen : Nat) : Reception × Nat :=
  if s.sent ≤ seen then (if s.coordinated then .pending else .closed, seen)
  else if seen + 1 = s.sent then (.signal, s.sent)
  else (.lagged (s.sent - seen - 1), s.sent - 1)

/-- A receiver looks for a signal; `none` if there is no such receiver. -/
def receive (s : StopSignal) (name : Text) : Option Reception × StopSignal :=
  match s.seen? name with
  | none => (none, s)
  | some seen => (some (s.look seen).1, s.note name (s.look seen).2)

/-- The outcome of a step that only the coordinator can take. -/
inductive Outcome
  | done
  | gone
  | dropped (existed : Bool)
  | received (what : Option Reception)
  deriving DecidableEq, Repr

/-- What may happen to the signal and its receivers. -/
inductive Step
  | subscribe (name : Text)
  | trigger
  | dropCoordinator
  | drop (name : Text)
  | receive (name : Text)
  deriving DecidableEq, Repr

/-- The coordinator's part, while there is one. -/
def coordinate (s : StopSignal) (next : StopSignal) : Outcome × StopSignal :=
  if s.coordinated then (.done, next) else (.gone, s)

/-- One step and its outcome. -/
def step (s : StopSignal) : Step → Outcome × StopSignal
  | .subscribe name => s.coordinate (s.subscribe name)
  | .trigger => s.coordinate s.trigger
  | .dropCoordinator => s.coordinate s.close
  | .drop name => (.dropped (s.seen? name).isSome, s.drop name)
  | .receive name => let (r, next) := s.receive name; (.received r, next)

/-- The outcomes of a list of steps, each with the signal after it. -/
def run (s : StopSignal) : List Step → List (Outcome × StopSignal)
  | [] => []
  | a :: rest => s.step a :: (s.step a).2.run rest

/-- How many receivers the coordinator counts, while there is one. -/
def reportedCount (s : StopSignal) : Option Nat :=
  if s.coordinated then some s.receiverCount else none

end StopSignal

end CredentialGateway
