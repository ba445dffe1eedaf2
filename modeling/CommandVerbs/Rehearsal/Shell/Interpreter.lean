import CommandVerbs.Files.Tree
import CommandVerbs.Rehearsal.Shell.Arithmetic
import CommandVerbs.Rehearsal.Shell.Command

/-!
# The state of the command interpreter

What an interpreter knows while it carries out a script, and the ways in which a command keeps the next
one from being carried out.
-/

namespace CommandVerbs.Shell

/-- Why the next command is not carried out. -/
inductive Departure where
  | exit (status : Nat)
  /-- an error, which ends the script -/
  | refused
  /-- the interpreter itself is ended by a signal -/
  | killed (signal : Nat)
  /-- a program that has taken the place of this process is ended by a signal -/
  | replaced (signal : Nat)
  | leaveFunction (status : Nat)
  | leaveLoop (levels : Nat)
  | nextTurn (levels : Nat)
  deriving DecidableEq, Repr, Inhabited

structure Interpreter where
  files : FileTree
  name : String := "sh"
  process : Nat := 1000
  arguments : List String := []
  bindings : Arithmetic.Variables :=
    [("HOME", "/root"), ("IFS", " \t\n"), ("OPTIND", "1"), ("PATH", "/usr/local/bin:/usr/bin:/bin"),
      ("PPID", "1"), ("PS1", "$ "), ("PS2", "> "), ("PS4", "+ "), ("PWD", "/")]
  /-- the variables that programs are given -/
  exported : List String := ["HOME", "PATH", "PWD"]
  constants : List String := []
  functions : List (String × Command) := []
  /-- the status of the last command -/
  status : Nat := 0
  /-- the status of the last script whose output was used -/
  outputStatus : Nat := 0
  /-- what has been written to the standard output -/
  written : String := ""
  input : List Char := []
  traps : List (String × String) := []
  /-- for a copy, the traps of the interpreter that it was made from -/
  outerTraps : Option (List (String × String)) := none
  /-- actions for signals that a copy has sent -/
  pending : List String := []
  /-- a failure ends the script -/
  stopsOnFailure : Bool := false
  /-- a parameter without a value is an error -/
  needsValues : Bool := false
  /-- nothing is carried out -/
  readsOnly : Bool := false
  /-- the status of the last background command -/
  job : Option Nat := none
  loops : Nat := 0
  inFunction : Bool := false
  /-- the variables that functions hide, with their old values -/
  hidden : List (String × Option String) := []
  deriving Inhabited

/-- What is done within an interpreter. -/
abbrev Run := ExceptT Departure (StateM Interpreter)

/-- The status of an error. -/
def misuse : Nat := 2

/-- The status of a command that is not known. -/
def unknownCommand : Nat := 127

/-- The status of a file that is no program. -/
def noProgram : Nat := 126

/-- The status of a process that a signal has ended. -/
def signalStatus (signal : Nat) : Nat :=
  128 + signal

/-- An error. -/
def refuse {α : Type} : Run α :=
  throw .refused

/-- Runs something and gives why it was left, if it was. -/
def attempt {α : Type} (run : Run α) : Run (Except Departure α) :=
  ExceptT.mk (Except.ok <$> run.run)

namespace Interpreter

/-- The process of a background command. -/
def jobProcess : Nat := 1001

def lookup? (i : Interpreter) (name : String) : Option String :=
  i.bindings.lookup name

def assign (i : Interpreter) (name value : String) : Interpreter :=
  { i with bindings := (name, value) :: i.bindings.filter (·.1 != name) }

/-- The value of a parameter. -/
def parameter? (i : Interpreter) (name : String) : Option String :=
  match name.toList with
  | ['?'] => some (toString i.status)
  | ['$'] => some (toString i.process)
  | ['#'] => some (toString i.arguments.length)
  | ['!'] => i.job.map fun _ => toString jobProcess
  | ['-'] => some ""
  | ['0'] => some i.name
  | ['@'] | ['*'] => if i.arguments.isEmpty then none else some (" ".intercalate i.arguments)
  | digits =>
    if digits.all Char.isDigit then
      let n := digits.foldl (fun n c => n * 10 + (c.toNat - '0'.toNat)) 0
      i.arguments[n - 1]?
    else i.lookup? name

/-- Directories that are there whatever the files are. -/
def commonDirectories : List String :=
  [".", "..", "/", "/bin", "/dev", "/etc", "/home", "/proc", "/root", "/tmp", "/usr", "/usr/bin", "/var"]

/-- Devices and programs that are there whatever the files are. -/
def commonFiles : List String :=
  ["/dev/null", "/dev/zero", "/bin/sh", "/bin/true", "/bin/false", "/usr/bin/env", "/etc/passwd"]

def isDirectory (i : Interpreter) (path : String) : Bool :=
  commonDirectories.contains path || i.files.isDirectory path

def isFile (i : Interpreter) (path : String) : Bool :=
  commonFiles.contains path || (i.files.contains path && !i.files.isDirectory path)

/-- The text of a file, if it is there. -/
def fileText? (i : Interpreter) (path : String) : Option String :=
  match i.files.read path with
  | .ok text => some text
  | .error _ => if commonFiles.contains path then some "" else none

end Interpreter

/-- Binds a variable, which must not be a constant. -/
def assign (name value : String) : Run Unit := do
  if (← get).constants.contains name then refuse
  else modify (·.assign name value)

/-- Writes to the standard output. -/
def write (text : String) : Run Unit :=
  modify fun i => { i with written := i.written ++ text }

end CommandVerbs.Shell
