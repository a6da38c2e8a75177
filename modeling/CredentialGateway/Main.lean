import CredentialGateway.Program

/-!
# The command

Runs the program on the arguments and the environment at hand, with the one file that a
configuration can come from.  It rehearses a start: the socket is bound in the model of the file
tree, no caller comes, and the end is as after a signal.  What the program reports goes to standard
output, its errors to standard error.
-/

namespace CredentialGateway.Command

/-- The tree that holds a file at a path and the directories on the way to it. -/
def treeWith (home : Location) (path : Text) (content : Bytes) : FileTree :=
  let (dir, parts) := FileTree.start home path
  let l := dir ++ parts.filter (fun part => part ≠ [] && part ≠ ['.'])
  let dirs := (List.range l.length).map fun i => (l.take i, Node.dir)
  ⟨(l, .file content) :: dirs.filter (·.1 ≠ [])⟩

/-- The tree that holds a directory. -/
def treeOf (home : Location) : FileTree :=
  ⟨((List.range (home.length + 1)).map fun i => (home.take i, Node.dir)).filter (·.1 ≠ [])⟩

/-- The environment variables that count besides the log filter: the credential's. -/
def variableNames (args : List Text) (tree : FileTree) (home : Location) : List Text :=
  match (CommandLine.parse args).toOption.bind fun c => (c.resolve tree home).toOption with
  | some c => [Program.filterVariable, c.service.credentialEnv]
  | none => []

def entryText (format : LogFormat) (e : Log.Entry) : Text :=
  match format with
  | .pretty => e.line
  | .json => e.json

/-- The configuration file that the arguments name, as far as it can be read. -/
def readTree (args : List Text) (home : Location) : IO FileTree := do
  match (CommandLine.parse args).toOption.bind (·.config) with
  | none => return treeOf home
  | some path =>
    try
      let content ← IO.FS.readBinFile (String.ofList path)
      return ⟨(treeWith home path content.toList).entries ++ (treeOf home).entries⟩
    catch _ => return treeOf home

/-- The variables that are set. -/
def readVariables (names : List Text) : IO (List (Text × Bytes)) :=
  names.filterMapM fun name => do
    return (← IO.getEnv (String.ofList name)).map fun v => (name, v.toUTF8.toList)

end CredentialGateway.Command

open CredentialGateway in
def main (args : List String) : IO UInt32 := do
  let args := args.map String.toList
  let home := ((← IO.currentDir).toString.toList.splitOn '/').filter (· ≠ [])
  let tree ← Command.readTree args home
  let env ← Command.readVariables (Command.variableNames args tree home)
  let o := Program.run
    { args, env, tree, home, requests := [], signal := .terminate } Service.unreachable
  IO.print (String.ofList o.answer)
  for e in o.log do IO.println (String.ofList (Command.entryText o.format e))
  IO.eprint (String.ofList o.errors)
  return o.status.toUInt32
