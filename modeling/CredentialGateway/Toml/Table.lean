import CredentialGateway.Toml.Value

/-!
# Building tables

A document names a place in the tree of tables by a path of keys, and adds to the table there.
Tables on the way come into being when they are missing.  A way never leads through a value that is
complete, and a dotted key never adds to a table that has a header of its own.
-/

namespace CredentialGateway.Toml

/-- The entries with one value replaced. -/
def replace (key : Text) (v : Value) (es : Entries) : Entries :=
  es.map fun (k, old) => if k = key then (k, v) else (k, old)

/-- The last item of a list replaced by what `f` makes of it. -/
def modifyLast {α : Type} (f : α → Option α) : List α → Option (List α)
  | [] => none
  | [x] => (f x).map ([·])
  | x :: y :: rest => (modifyLast f (y :: rest)).map (x :: ·)

/-- What a table on the way makes of the table further down. -/
def enter (dotted : Bool) (f : Origin → Entries → Option Entries) : Value → Option Value
  | .table origin es =>
    if origin = .closed || (dotted && origin = .header) then none
    else (f origin es).map (.table origin)
  | _ => none

/-- Applies `f` to the table at the end of a path.  Through an array of tables the way goes on in
its last table. -/
def descend (dotted : Bool) (f : Origin → Entries → Option Entries) (origin : Origin) :
    List Text → Entries → Option Entries
  | [], es => f origin es
  | key :: path, es =>
    let further (o : Origin) (sub : Entries) := descend dotted f o path sub
    match es.lookup key with
    | none =>
      let o := if dotted then .dotted else .implied
      (further o []).map fun sub => es ++ [(key, .table o sub)]
    | some (.array true items) =>
      (modifyLast (enter false further) items).map fun items => replace key (.array true items) es
    | some v => (enter dotted further v).map fun v => replace key v es

/-- Adds an entry to a table.  Behind a dotted key the table must be one that dotted keys made, and
otherwise it must not. -/
def addEntry (path : List Text) (key : Text) (v : Value) (origin : Origin) (es : Entries) :
    Option Entries :=
  let add (o : Origin) (es : Entries) : Option Entries :=
    if (o = .dotted) != (path ≠ []) || (es.lookup key).isSome then none else some (es ++ [(key, v)])
  descend true add origin path es

/-- Makes the table that a header names.  It may have been passed through before; then it moves to
the end. -/
def openTable (key : Text) (es : Entries) : Option Entries :=
  match es.lookup key with
  | none => some (es ++ [(key, .table .header [])])
  | some (.table .implied sub) => some (es.filter (·.1 ≠ key) ++ [(key, .table .header sub)])
  | some _ => none

/-- Adds a table to the array that a header in double brackets names. -/
def growArray (key : Text) (es : Entries) : Option Entries :=
  match es.lookup key with
  | none => some (es ++ [(key, .array true [.table .header []])])
  | some (.array true items) => some (replace key (.array true (items ++ [.table .header []])) es)
  | some _ => none

end CredentialGateway.Toml
