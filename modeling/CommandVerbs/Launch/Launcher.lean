import CommandVerbs.Fault
import CommandVerbs.Files.Tree
import CommandVerbs.Launch.Request

/-!
# Launching Java programs

A launcher turns a request into a command line: options of the virtual machine, the debugger, the
class path, the class and its arguments. A dry run shows the command line; otherwise the program is
started and has to end with status zero. Starting it is up to the system, a parameter of the launcher.
-/

namespace CommandVerbs

/-- What becomes of a program that is started. -/
inductive ProcessEnd where
  | notStarted (reason : String)
  | exited (code : Nat)
  | signalled
  deriving DecidableEq, Repr, Inhabited

/-- Starts a program with arguments beside files and tells what becomes of it. -/
abbrev Starter := FileTree → String → List String → ProcessEnd

structure Launcher where
  /-- the program that is started -/
  program : String
  /-- the options of requests that have none -/
  options : List String := ["-Xmx2048m", "-XX:+HeapDumpOnOutOfMemoryError"]
  start : Starter
  deriving Inhabited

namespace Launcher

/-- The launcher of an installation; without one, `java` is looked up when it is started. -/
def ofHome (start : Starter) (home : Option String) : Launcher :=
  match home.filter (· != "") with
  | none => { program := "java", start }
  | some home => { program := Path.join (Path.join home "bin") "java", start }

def debugOption (port : UInt16) : String :=
  s!"-agentlib:jdwp=transport=dt_socket,server=y,suspend=n,address={port}"

/-- The arguments that stand after the program. -/
def arguments (l : Launcher) (r : LaunchRequest) : List String :=
  (if r.options.isEmpty then l.options else r.options) ++
    (r.debugPort.map debugOption).toList ++
    (match r.classpath with
      | none => []
      | some path => ["-classpath", path]) ++
    r.target :: r.arguments

/-- The command line as it is shown. -/
def commandLine (l : Launcher) (r : LaunchRequest) : String :=
  " ".intercalate (l.program :: l.arguments r)

/-- Whether a program has done what it should. -/
def judge (program : String) : ProcessEnd → Except ProcessFault Unit
  | .notStarted reason => .error (.startFailed program reason)
  | .exited 0 => .ok ()
  | .exited code => .error (.nonZeroExit program code)
  | .signalled => .error (.terminated program)

end Launcher

end CommandVerbs
