import CredentialGateway.FileTree.Basic

/-!
# Operations on files

Each operation takes the directory where relative paths start, and either fails and leaves the
tree alone, or gives the tree after it.  `unlink` never follows a link at the end of the path and
never removes a directory; `write` and `read` follow links.
-/

namespace CredentialGateway.FileTree

/-- The entry for a new node: nothing may be there, and the path must not end in a slash. -/
def vacant (t : FileTree) (place : Place) (taken : OsError) : Except FileError Location :=
  match place with
  | .whole _ => .error (.os taken)
  | .entry dir name slash =>
    if (node? (dir ++ [name]) t).isSome then .error (.os taken)
    else if slash then .error (.os .notFound)
    else .ok (dir ++ [name])

/-- Removes the entry that the path names, unless it is a directory. -/
def unlink (t : FileTree) (home : Location) (path : Text) : Except FileError FileTree := do
  match ← t.find false home path with
  | .whole _ => throw (.os .isDirectory)
  | .entry dir name slash =>
    match node? (dir ++ [name]) t with
    | none => throw (.os .notFound)
    | some .dir => throw (.os .isDirectory)
    | some _ => if slash then throw (.os .notDirectory) else return t.remove (dir ++ [name])

/-- Creates a directory; here a slash behind the name does no harm. -/
def makeDir (t : FileTree) (home : Location) (path : Text) : Except FileError FileTree := do
  match ← t.find false home path with
  | .entry dir name _ => return t.put (← t.vacant (.entry dir name false) .alreadyExists) .dir
  | .whole _ => throw (.os .alreadyExists)

/-- Creates a symbolic link. -/
def link (t : FileTree) (home : Location) (path target : Text) : Except FileError FileTree := do
  if target.contains '\x00' then throw .nulInName
  if target = [] then throw (.os .notFound)
  let place ← t.find false home path
  return t.put (← t.vacant place .alreadyExists) (.symlink target)

/-- Creates the entry of a socket with this number. -/
def makeSocket (t : FileTree) (home : Location) (path : Text) (id : Nat) :
    Except FileError FileTree := do
  let place ← t.find false home path
  return t.put (← t.vacant place .addressInUse) (.socket id)

/-- Writes a file, new or in place of its content. -/
def write (t : FileTree) (home : Location) (path : Text) (content : Bytes) :
    Except FileError FileTree := do
  match ← t.find true home path with
  | .whole _ => throw (.os .isDirectory)
  | .entry dir name slash =>
    match node? (dir ++ [name]) t with
    | some .dir => throw (.os .isDirectory)
    | some (.socket _) => throw (.os (if slash then .isDirectory else .noSuchDevice))
    | _ => if slash then throw (.os .isDirectory) else return t.put (dir ++ [name]) (.file content)

/-- The node that a path leads to when all links are followed. -/
def open? (t : FileTree) (home : Location) (path : Text) : Except FileError Node := do
  match ← t.find true home path with
  | .whole _ => return .dir
  | .entry dir name slash =>
    match node? (dir ++ [name]) t with
    | none => throw (.os .notFound)
    | some .dir => return .dir
    | some node => if slash then throw (.os .notDirectory) else return node

/-- The content of a file. -/
def read (t : FileTree) (home : Location) (path : Text) : Except FileError Bytes := do
  match ← t.open? home path with
  | .file content => return content
  | .socket _ => throw (.os .noSuchDevice)
  | _ => throw (.os .isDirectory)

/-- The content of a file that must be text. -/
def readText (t : FileTree) (home : Location) (path : Text) : Except FileError Text := do
  match Bytes.text? (← t.read home path) with
  | some content => return content
  | none => throw .notText

theorem readText_of_read {t : FileTree} {home : Location} {path s : Text}
    (h : t.read home path = .ok s.utf8) : t.readText home path = .ok s := by
  simp only [readText, h, bind, Except.bind, Bytes.text?_utf8]
  rfl

end CredentialGateway.FileTree
