import CommandVerbs.CommandLine.Reading
import CommandVerbs.Console.Touched

/-!
# The program

The outer layer of the program. It provides the files that a run may touch, lets the program run on
them, and puts back what has changed. From here no other program is started and no service is in
reach.
-/

namespace CommandVerbs

/-- The path of a place from the root. -/
def pathOf (place : Location) : String :=
  "/" ++ "/".intercalate place

/-- What is at a place of the file system. -/
def nodeAt? (place : Location) : IO (Option Node) := do
  let path := (← IO.currentDir) / pathOf place
  if ← path.isDir then return some .directory
  else if ← path.pathExists then
    let bytes ← IO.FS.readBinFile path
    return some (.file (.ofBytes bytes.toList) FileTree.plainMode)
  else return none

/-- The tree with what is at some places of the file system. -/
def provide (tree : FileTree) (places : List Location) : IO FileTree :=
  places.foldlM
    (fun tree place => do
      match ← nodeAt? place with
      | some node => return tree.put place node
      | none => return tree)
    tree

/-- Puts a node into the file system. -/
def restore (place : Location) (node : Node) : IO Unit := do
  let path := (← IO.currentDir) / pathOf place
  match node with
  | .directory => IO.FS.createDirAll path
  | .file content mode =>
    match content with
    | .text value => IO.FS.writeFile path value
    | .bytes value => IO.FS.writeBinFile path ⟨value.toArray⟩
    if mode = FileTree.programMode then
      IO.setAccessRights path
        { user := { read := true, write := true, execution := true }
          group := { read := true, execution := true }
          other := { read := true, execution := true } }

/-- The variables of the environment that the program reads. -/
def consulted : List String :=
  ["HOME", "XDG_DATA_HOME", "JAVA_HOME", Switch.configVariable, Startup.logVariable]

/-- The environment, as far as the program reads it. -/
def environment : IO (KeyMap String) := do
  let values ← consulted.filterMapM fun name => do
    return (← IO.getEnv name).map fun value => (name, value)
  return .ofList values

/-- The word for a severity in the log. -/
def severityWord : Severity → String
  | .debug => "DEBUG"
  | .info => "INFO"
  | .warn => "WARN"
  | .error => "ERROR"

/-- Runs the program for a command line. -/
def runProgram (words : List String) : IO UInt32 := do
  let workingDirectory := Path.names (← IO.currentDir).toString
  let files ← provide (.emptyAt workingDirectory) (Startup.environmentPlaces workingDirectory)
  let startup : Startup :=
    { words, environment := ← environment, programPath := (← IO.appPath).toString, files }
  let startup := { startup with files := ← provide files (startup.places Grammar.read) }
  let finish := startup.run Grammar.read fun _ _ _ => .notStarted FileFault.missing.message
  for (place, node) in finish.files.nodes do
    if startup.files.node? place != some node then restore place node
  IO.print finish.output
  for diagnostic in finish.log do
    IO.eprintln s!"{severityWord diagnostic.severity} {diagnostic.message}"
  IO.eprint finish.errors
  return finish.status.toUInt32

end CommandVerbs

def main (words : List String) : IO UInt32 :=
  CommandVerbs.runProgram words
