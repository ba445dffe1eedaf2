import CommandVerbs.Launch.Launcher
import CommandVerbs.Rehearsal.Shell.Evaluation
import CommandVerbs.Text.Blank

/-!
# A system with a command interpreter

A stand-in for the system that starts programs. The command interpreter `sh` carries out the script that
it is given, and scripts among the files are started by their first lines. No other program is installed.
-/

namespace CommandVerbs.Shell

/-- How deep commands may stand in one another, and how often loops are gone through. -/
def depthLimit : Nat := 20000

/-- How an installed program ends that is started beside files with the given arguments. -/
def run : Starter := fun files program arguments =>
  match ((start depthLimit program arguments).run { files }).1 with
  | .ok status => .exited status
  | .error _ => .signalled

/-- The program that carries out a script, by the first line of the script, and its option. -/
def scriptProgram? (text : String) : Option (List String) :=
  match text.toList.takeWhile (· != '\n') with
  | '#' :: '!' :: line =>
    let words := Text.trimChars line
    let option := Text.trimChars (words.dropWhile (!Text.isBlank ·))
    if words.isEmpty then none
    else some (String.ofList (words.takeWhile (!Text.isBlank ·)) ::
      (if option.isEmpty then [] else [String.ofList option]))
  | _ => none

/-- How a file ends that is started as a program. -/
def runFile (files : FileTree) (path : String) (arguments : List String) : Node → ProcessEnd
  | .directory => .notStarted FileFault.denied.message
  | .file content mode =>
    if mode != FileTree.programMode then .notStarted FileFault.denied.message
    else match scriptProgram? content.shown with
      | none => .notStarted "Exec format error (os error 8)"
      | some words =>
        let program := words.headD ""
        if (program? program).isSome then run files program (words.tail ++ path :: arguments)
        else .notStarted FileFault.missing.message

/-- How a program ends that is started beside the given files. -/
def starter : Starter := fun files program arguments =>
  if (program :: arguments).any (·.toList.contains '\x00') then
    .notStarted "nul byte found in provided data"
  else if program = "sh" ∨ program = "/bin/sh" then run files program arguments
  else if program.toList.contains '/' then
    match files.lookup program with
    | .error fault => .notStarted fault.message
    | .ok node => runFile files program arguments node
  else .notStarted FileFault.missing.message

end CommandVerbs.Shell
