import CredentialGateway.Toml.DateTime
import CredentialGateway.Toml.Number
import CredentialGateway.Toml.Quote
import CredentialGateway.Toml.Table

/-!
# TOML documents

A document is read line by line: an entry, a header, or nothing, and a comment behind each.  Values
nest at most 79 deep, and a key has at most 79 parts.
-/

namespace CredentialGateway.Toml

/-- Values nest at most this deep, and keys have at most as many parts. -/
def deepest : Nat := 79

/-! ## Blanks, comments, lines -/

def skipBlanks (t : Text) : Text := t.dropWhile fun c => c == ' ' || c == '\t'

/-- A character that a comment may hold. -/
def isCommentChar (c : Char) : Bool := c == '\t' || (0x20 ≤ c.toNat && c.toNat != 0x7F)

def skipComment : Text → Text
  | '#' :: rest => rest.dropWhile isCommentChar
  | t => t

/-- What follows a line end. -/
def lineEnd? : Text → Option Text
  | '\n' :: rest => some rest
  | '\r' :: '\n' :: rest => some rest
  | _ => none

/-- What follows the blanks and the comment at the end of a line. -/
def endLine (t : Text) : Option Text :=
  match skipComment (skipBlanks t) with
  | [] => some []
  | rest => lineEnd? rest

/-- What follows blanks, comments and line ends. -/
def skipLines (t : Text) : Text :=
  match lineEnd? (skipComment (skipBlanks t)) with
  | some rest => if rest.length < t.length then skipLines rest else rest
  | none => skipBlanks t
termination_by t.length

/-! ## Keys -/

def isBareChar (c : Char) : Bool := c.isAlphanum || c == '_' || c == '-'

/-- Reads one part of a key. -/
def keyPart : Reader Text := fun t =>
  match t with
  | c :: _ =>
    if c == '"' || c == '\x27' then Quote.readLine t
    else if isBareChar c then some (t.takeWhile isBareChar, t.dropWhile isBareChar)
    else none
  | [] => none

/-- Reads the parts of a key, blanks around each. -/
def keyParts (t : Text) : Option (List Text × Text) := do
  let (part, rest) ← keyPart (skipBlanks t)
  match skipBlanks rest with
  | '.' :: rest' =>
    if rest'.length < t.length then
      let (parts, rest) ← keyParts rest'
      return (part :: parts, rest)
    else none
  | rest => return ([part], rest)
termination_by t.length

/-- A key: the path to its table, and its last part. -/
structure Key where
  path : List Text
  last : Text

/-- Reads a key. -/
def key : Reader Key := fun t => do
  let (parts, rest) ← keyParts t
  if parts.length ≤ deepest then return (⟨parts.dropLast, ← parts.getLast?⟩, rest) else none

/-! ## Values -/

/-- Reads a value that is neither array nor table. -/
def scalar : Reader Value := fun t =>
  match t with
  | 't' :: 'r' :: 'u' :: 'e' :: rest => some (.boolean true, rest)
  | 'f' :: 'a' :: 'l' :: 's' :: 'e' :: rest => some (.boolean false, rest)
  | c :: _ =>
    if c == '"' || c == '\x27' then (Quote.read t).map fun (s, rest) => (.string s, rest)
    else match DateTime.read t with
      | some (_, rest) => some (.dateTime, rest)
      | none => Number.read t
  | [] => none

/-- Reads the items of an array up to its closing bracket; a comma may follow the last one. -/
def items (item : Reader Value) (t : Text) : Option (List Value × Text) :=
  match skipLines t with
  | ']' :: rest => some ([], rest)
  | start => do
    let (v, rest) ← item start
    match skipLines rest with
    | ']' :: rest => return ([v], rest)
    | ',' :: rest =>
      if rest.length < t.length then
        let (vs, rest) ← items item rest
        return (v :: vs, rest)
      else none
    | _ => none
termination_by t.length

/-- Reads a key and the value behind its equals sign. -/
def keyValue (item : Reader Value) : Reader (Key × Value) := fun t => do
  let (k, rest) ← key t
  match rest with
  | '=' :: rest =>
    let (v, rest) ← item (skipBlanks rest)
    return ((k, v), rest)
  | _ => none

/-- Reads the entries of a table between braces; it has at least one. -/
def inlineEntries (item : Reader Value) (es : Entries) (t : Text) : Option (Entries × Text) := do
  let ((k, v), rest) ← keyValue item t
  let es ← addEntry k.path k.last v .header es
  match skipBlanks rest with
  | '\x7d' :: rest => return (es, rest)
  | ',' :: rest => if rest.length < t.length then inlineEntries item es rest else none
  | _ => none
termination_by t.length

/-- Reads a table behind its opening brace. -/
def inlineTable (item : Reader Value) : Reader Value := fun t =>
  match skipBlanks t with
  | '\x7d' :: rest => some (.table .closed [], rest)
  | t => (inlineEntries item [] t).map fun (es, rest) => (.table .closed es, rest)

/-- Reads a value in which containers nest at most `depth` deep. -/
def value : Nat → Reader Value
  | 0, t => if t.head? = some '[' || t.head? = some '\x7b' then none else scalar t
  | depth + 1, '[' :: rest => (items (value depth) rest).map fun (vs, r) => (.array false vs, r)
  | depth + 1, '\x7b' :: rest => inlineTable (value depth) rest
  | _ + 1, t => scalar t

/-! ## Lines -/

/-- What has been read, and the table that entries go to. -/
structure Draft where
  root : Entries := []
  path : List Text := []

/-- The draft with an entry in its current table. -/
def Draft.add (d : Draft) (k : Key) (v : Value) : Option Draft := do
  let root ← descend false (addEntry k.path k.last v) .header d.path d.root
  return { d with root }

/-- The draft with a header: `make` makes the table in the one around it. -/
def Draft.turn (d : Draft) (k : Key) (make : Text → Entries → Option Entries) : Option Draft := do
  let root ← descend false (fun _ es => make k.last es) .header k.path d.root
  return ⟨root, k.path ++ [k.last]⟩

/-- Reads a line that is not blank. -/
def line (d : Draft) (t : Text) : Option (Draft × Text) :=
  match t with
  | '[' :: '[' :: rest => do
    let (k, rest) ← key rest
    match rest with
    | ']' :: ']' :: rest => return (← d.turn k growArray, ← endLine rest)
    | _ => none
  | '[' :: rest => do
    let (k, rest) ← key rest
    match rest with
    | ']' :: rest => return (← d.turn k openTable, ← endLine rest)
    | _ => none
  | t => do
    let ((k, v), rest) ← keyValue (value deepest) t
    return (← d.add k v, ← endLine rest)

/-- Reads line after line. -/
def lines (d : Draft) (t : Text) : Option Draft :=
  match endLine t with
  | some [] => some d
  | some rest => if rest.length < t.length then lines d rest else none
  | none =>
    match line d (skipBlanks t) with
    | some (d, rest) => if rest.length < t.length then lines d rest else none
    | none => none
termination_by t.length

/-- The entries of the document that a text writes. -/
def parse (t : Text) : Option Entries :=
  (lines {} (if t.head? = some '\ufeff' then t.drop 1 else t)).map (·.root)

end CredentialGateway.Toml
