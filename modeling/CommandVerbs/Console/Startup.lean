import CommandVerbs.Console.Console
import CommandVerbs.Console.EnvironmentFile
import CommandVerbs.Console.LogFilter

/-!
# Starting the program

From the start of the program to its exit status: the environment is completed from a file, the log
filter and the paths are chosen, and the console runs.
-/

namespace CommandVerbs

/-- What the program is started with. -/
structure Startup where
  /-- the command line without the name of the program -/
  words : List String
  environment : KeyMap String
  programPath : String
  files : FileTree
  deriving Inhabited

/-- What the program leaves. -/
structure Finish where
  status : Nat
  output : String
  errors : String
  /-- the diagnostics that are shown, in order -/
  log : List Diagnostic
  files : FileTree
  deriving Inhabited

namespace Startup

/-- Whether a word before any separator asks for more to be said. It is looked for before the command
line is read, so that everything from then on is covered. -/
def asksForMore (words : List String) : Bool :=
  (words.takeWhile (· != "--")).any fun word => word == "-v" || word == "--verbose"

/-- The variable that holds a log filter. -/
def logVariable : String := "RUST_LOG"

/-- The filter for the log: of a command line that asks for more, of the environment, or else for
warnings. -/
def logFilter (words : List String) (environment : KeyMap String) : LogFilter :=
  if asksForMore words then .above .debug
  else ((environment.get? logVariable).bind LogFilter.ofText?).getD (.above .warn)

/-- The directory for the data of the user's programs. -/
def dataDirectory? (environment : KeyMap String) : Option String :=
  ((environment.get? "XDG_DATA_HOME").filter Path.isAbsolute).or
    (((environment.get? "HOME").filter (· != "")).map fun home => Path.join home ".local/share")

/-- The configuration file in the directory for data. -/
def configPathIn (directory : String) : String :=
  Path.join (Path.join directory Console.program.name) StockVerbs.configFileName

/-- The exit status if there is no directory for data. -/
def noDataStatus : Nat := 78

/-- What the console is told. -/
def settings (s : Startup) (environment : KeyMap String) (directory : String) : ConsoleSettings :=
  { configPath := configPathIn directory
    programPath := s.programPath
    configured := environment.get? Switch.configVariable
    javaHome := environment.get? "JAVA_HOME" }

/-- What is left after a run of the console. -/
def finish (filter : LogFilter) (result : Except ConsoleFault Unit) (w : World Unit) : Finish :=
  let (status, report) := match result with
    | .ok () => (0, "")
    | .error fault => (fault.status, fault.report)
  { status
    output := w.output.text ++ w.echo.text
    errors := w.errors.text ++ report
    log := w.diagnostics.reverse.filter filter.shows
    files := w.files }

/-- Runs the program with a parser for its command line, on a system that starts programs. -/
def run (parser : Parser) (starter : Starter) (s : Startup) : Finish :=
  let environment := EnvironmentFile.loadFrom s.environment s.files
  let filter := logFilter s.words environment
  let world : World Unit :=
    { files := s.files, service := (), diagnostics := Console.startRemarks.reverse }
  match dataDirectory? environment with
  | none =>
    { status := noDataStatus
      output := ""
      errors := "ERROR: Could not determine the user data directory\n"
      log := []
      files := s.files }
  | some directory =>
    match Console.start (s.settings environment directory) with
    | .error fault => finish filter (.error fault) world
    | .ok console =>
      let (result, world) := console.run parser starter s.words world
      finish filter result world

end Startup

end CommandVerbs
