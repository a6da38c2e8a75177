import CredentialGateway.Text

/-!
# Failures of the file system

Each failure that the operating system reports has a number, a text, and a kind by which
diagnostics name it.  Some failures come before the system is asked: a name with a NUL in it, a
socket address that is too long, and content that is no text.
-/

namespace CredentialGateway

/-- A failure that the operating system reports. -/
inductive OsError
  | notFound
  | noSuchDevice
  | alreadyExists
  | notDirectory
  | isDirectory
  | invalidArgument
  | nameTooLong
  | tooManyLinks
  | addressInUse
  | connectionRefused
  deriving DecidableEq, Repr

namespace OsError

def number : OsError → Nat
  | notFound => 2
  | noSuchDevice => 6
  | alreadyExists => 17
  | notDirectory => 20
  | isDirectory => 21
  | invalidArgument => 22
  | nameTooLong => 36
  | tooManyLinks => 40
  | addressInUse => 98
  | connectionRefused => 111

def text : OsError → Text
  | notFound => "No such file or directory"
  | noSuchDevice => "No such device or address"
  | alreadyExists => "File exists"
  | notDirectory => "Not a directory"
  | isDirectory => "Is a directory"
  | invalidArgument => "Invalid argument"
  | nameTooLong => "File name too long"
  | tooManyLinks => "Too many levels of symbolic links"
  | addressInUse => "Address already in use"
  | connectionRefused => "Connection refused"

/-- The name of the class of failures that this one belongs to. -/
def kind : OsError → Text
  | notFound => "NotFound"
  | noSuchDevice => "Uncategorized"
  | alreadyExists => "AlreadyExists"
  | notDirectory => "NotADirectory"
  | isDirectory => "IsADirectory"
  | invalidArgument => "InvalidInput"
  | nameTooLong => "InvalidFilename"
  | tooManyLinks => "FilesystemLoop"
  | addressInUse => "AddrInUse"
  | connectionRefused => "ConnectionRefused"

end OsError

/-- The cause why an operation on files or sockets fails. -/
inductive FileError
  | os (e : OsError)
  | nulInName
  | nulInAddress
  | addressTooLong
  | abstractTooLong
  | notText
  deriving DecidableEq, Repr

namespace FileError

def message : FileError → Text
  | os e => e.text ++ " (os error " ++ Text.ofNat e.number ++ ")"
  | nulInName => "file name contained an unexpected NUL byte"
  | nulInAddress => "paths must not contain interior null bytes"
  | addressTooLong => "path must be shorter than SUN_LEN"
  | abstractTooLong => "abstract socket name must be shorter than SUN_LEN"
  | notText => "stream did not contain valid UTF-8"

/-- A record as diagnostics show it: a name, and the fields in braces. -/
def shownRecord (name : Text) (fields : List (Text × Text)) : Text :=
  name ++ " \x7b " ++ Text.join ", " (fields.map fun (k, v) => k ++ ": " ++ v) ++ " \x7d"

/-- What diagnostics show of a failure. -/
def shown : FileError → Text
  | os e => shownRecord "Os" [("code", Text.ofNat e.number), ("kind", e.kind),
      ("message", "\"" ++ e.text ++ "\"")]
  | e => shownRecord "Error" [("kind", if e = notText then "InvalidData" else "InvalidInput"),
      ("message", "\"" ++ e.message ++ "\"")]

end FileError

end CredentialGateway
