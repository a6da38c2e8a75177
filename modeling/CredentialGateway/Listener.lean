import CredentialGateway.FileTree.Files
import CredentialGateway.Log.Event
import CredentialGateway.Text.Quoted

/-!
# The listener

The gateway listens on a socket in the file tree.  What an earlier run has left at the path is
removed first, unless it is a directory; a failure to remove it is reported and left for the bind
to meet.  A socket outlives its listener: the entry stays, and connecting to it is refused.

An address is a path of less than 108 bytes.  A name that starts with NUL is kept apart from the
file tree and vanishes with its listener.  The empty path gives a name of that kind which the system
chooses; nobody is told it, and no path leads there.

The system takes any bytes as a path.  Here a path is a text, since it comes from the configuration;
a path in other bytes, which only the command line can give, is not modelled.
-/

namespace CredentialGateway

/-- What a listener listens on. -/
inductive Endpoint
  | file (id : Nat)
  | abstract (name : Text)
  /-- A name that the system has chosen. -/
  | autobound
  deriving DecidableEq, Repr

/-- The address that a path stands for. -/
inductive Address
  | path (p : Text)
  | abstract (name : Text)
  | autobound
  deriving DecidableEq, Repr

namespace Address

/-- An address has fewer bytes than this. -/
def limit : Nat := 108

/-- The address of a path that must name a file. -/
def ofPath (p : Text) : Except FileError Address :=
  if p.contains '\x00' then .error .nulInAddress
  else if p.utf8.length ≥ limit then .error .addressTooLong
  else if p = [] then .ok .autobound
  else .ok (.path p)

/-- The address of a path; a leading NUL marks a name outside the file tree. -/
def ofText : Text → Except FileError Address
  | '\x00' :: name =>
    if (Text.utf8 name).length ≥ limit then .error .abstractTooLong else .ok (.abstract name)
  | p => ofPath p

end Address

/-- A file tree with the listeners that are open in it, each under its holder's name. -/
structure Harbour where
  tree : FileTree
  /-- Where relative paths start. -/
  home : Location
  /-- The number of the next socket. -/
  nextId : Nat := 0
  listeners : List (Text × Endpoint) := []
  deriving DecidableEq

/-- A bind that failed: where, and why. -/
structure BindError where
  path : Text
  cause : FileError
  deriving DecidableEq, Repr

namespace BindError

def message (e : BindError) : Text :=
  "failed to bind socket ".toList ++ e.path ++ ": " ++ e.cause.message

/-- What diagnostics show of a failed bind. -/
def shown (e : BindError) : Text :=
  FileError.shownRecord "Bind" [("path", Text.quotedPath e.path), ("source", e.cause.shown)]

end BindError

namespace Harbour

/-! ## Algorithm -/

/-- Someone listens on the name outside the file tree. -/
def hasAbstract (s : Harbour) (name : Text) : Bool := s.listeners.any (·.2 = .abstract name)

/-- Opens a socket at an address.  In the file tree a new entry must be possible there. -/
def openAt (s : Harbour) (address : Address) : Except FileError (Endpoint × Harbour) :=
  match address with
  | .path p => do
    let tree ← s.tree.makeSocket s.home p s.nextId
    return (.file s.nextId, { s with tree, nextId := s.nextId + 1 })
  | .abstract name =>
    if s.hasAbstract name then .error (.os .addressInUse) else .ok (.abstract name, s)
  | .autobound => .ok (.autobound, s)

/-- Removes what is left at the path.  Nothing there is as good. -/
def removeStale (s : Harbour) (path : Text) : Harbour × List Log.Event :=
  match s.tree.unlink s.home path with
  | .ok tree => ({ s with tree }, [.staleRemoved path])
  | .error (.os .notFound) => (s, [])
  | .error e => (s, [.staleKept path e.message])

/-- Removes what is left at the path and listens there. -/
def bind (s : Harbour) (path : Text) : Except BindError Endpoint × Harbour × List Log.Event :=
  let (s, stale) := s.removeStale path
  match Address.ofText path >>= s.openAt with
  | .ok (endpoint, s) => (.ok endpoint, s, stale ++ [.bound path])
  | .error cause => (.error ⟨path, cause⟩, s, stale)

/-- The holder's listener is closed; whatever it left in the file tree stays. -/
def close (s : Harbour) (holder : Text) : Harbour :=
  { s with listeners := s.listeners.filter (·.1 ≠ holder) }

/-- The holder keeps this endpoint open, and no other any more. -/
def keep (s : Harbour) (holder : Text) (endpoint : Endpoint) : Harbour :=
  { s with listeners := (holder, endpoint) :: (s.close holder).listeners }

/-- Binds for a holder.  If that fails, the holder's older listener stays open. -/
def bindAs (s : Harbour) (path holder : Text) : Except BindError Unit × Harbour × List Log.Event :=
  match s.bind path with
  | (.ok endpoint, s, events) => (.ok (), s.keep holder endpoint, events)
  | (.error e, s, events) => (.error e, s, events)

/-- Opens a socket and closes it at once, so that its entry is left behind. -/
def leaveStale (s : Harbour) (path : Text) : Except FileError Harbour := do
  return (← s.openAt (← Address.ofPath path)).2

/-- The holder of the listener that answers at an endpoint. -/
def holder? (s : Harbour) (endpoint : Endpoint) : Except FileError Text :=
  match s.listeners.find? (·.2 = endpoint) with
  | some (holder, _) => .ok holder
  | none => .error (.os .connectionRefused)

/-- Connects to a path; the answer is whose listener accepts. -/
def connect (s : Harbour) (path : Text) : Except FileError Text := do
  match ← Address.ofText path with
  | .path p =>
    match ← s.tree.open? s.home p with
    | .socket id => s.holder? (.file id)
    | _ => throw (.os .connectionRefused)
  | .abstract name => s.holder? (.abstract name)
  | .autobound => throw (.os .invalidArgument)

end Harbour

end CredentialGateway
