import CommandVerbs.CommandLine.Help
import CommandVerbs.CommandLine.Parser
import CommandVerbs.Console.Fault
import CommandVerbs.Console.StockVerbs
import CommandVerbs.Session.World

/-!
# The console

The program at the command line: its verbs are declared and checked, a command line is read by a
parser, and the verb that it names is executed on the files, with no service in reach. The parser and the
system that starts programs are parameters.
-/

namespace CommandVerbs

/-- What the program is told before it reads a command line. -/
structure ConsoleSettings where
  /-- the configuration file if neither the command line nor the environment names one -/
  configPath : String
  /-- the program that packaged launchers run -/
  programPath : String
  /-- the configuration file that the environment names -/
  configured : Option String := none
  /-- the installation of Java that the environment names -/
  javaHome : Option String := none
  deriving DecidableEq, Repr, Inhabited

/-- The program, ready to read a command line. -/
structure Console where
  settings : ConsoleSettings
  grammar : Grammar
  registry : Registry
  deriving Inhabited

namespace Console

/-- The program. -/
def program : Program :=
  { name := "verbkit"
    version := "0.3.0"
    description := "Create, administer and package a database cluster." }

/-- The diagnostics that starting the console leaves, one of each kind. -/
def startRemarks : List Diagnostic :=
  [.declared, .completing, .registered, .ready]

/-- The diagnostics that loading a configuration file leaves. -/
def loadRemarks (files : FileTree) (configPath : String) : List Diagnostic :=
  let skipped := match files.read configPath with
    | .ok text => (Config.skippedLines text).map Diagnostic.lineSkipped
    | .error _ => []
  skipped ++ [.configLoaded, .javaResolved, .executing]

/-- Declares and checks the verbs, and makes the grammar of the command line. -/
def start (settings : ConsoleSettings) : Except ConsoleFault Console := do
  let declared := StockVerbs.declare program.name {}
  declared.result.mapError .declaration
  let (checked, validated) := declared.registry.validateAll
  validated.mapError .declaration
  let (registry, grammar) := Grammar.ofRegistry program settings.configured checked
  return { settings, registry, grammar := ← grammar.mapError .declaration }

variable {σ : Type}

/-- Writes the program's own output. -/
def print (text : String) (w : World σ) : Except ConsoleFault Unit × World σ :=
  let (written, w) := w.write .output text
  (written.mapError .output, w)

/-- The configuration file for a command line. -/
def configPath (c : Console) (line : CommandLine) : String :=
  line.config.getD c.settings.configPath

/-- The packager of launchers that keep to a configuration file. -/
def packager (c : Console) (configPath : String) : Packager :=
  { program := c.settings.programPath, defaultName := program.name, configPath := some configPath }

/-- The adapters for verbs that keep to a configuration file. -/
def adapters (starter : Starter) (c : Console) (configPath : String) : Adapters Empty (World σ) :=
  World.adapters (.ofHome starter c.settings.javaHome) c.grammar.help
    (fun request w => w.package (c.packager configPath) request) World.isolated

/-- How many runs of a modifier of a stock verb may lie inside one another; they do not ask for any. -/
def depth : Nat := 1

/-- What the end of a verb means to the program. -/
def conclude : Outcome Unit → Except ConsoleFault Unit
  | .done () => .ok ()
  | .failed fault => .error (.verb fault)
  | .unfinished => .error (.verb (.aborted "The verb was cut off." []))

/-- Executes a verb for an invocation, with the settings of a configuration file. -/
def execute (starter : Starter) (c : Console) (e : Entry) (invocation : Invocation)
    (configPath : String) (w : World σ) : Except ConsoleFault Unit × World σ :=
  let w := w.report .configChosen
  match Config.FileStore.load w.files configPath with
  | .error fault => (.error (.verb (.config fault)), w)
  | .ok store =>
    let w := { (loadRemarks w.files configPath).foldl World.report w with store := .file store }
    let (outcome, w) := Session.execute (c.adapters starter configPath) depth e invocation w
    (conclude outcome, w)

/-- Carries out a command line that has been read. -/
def carryOut (starter : Starter) (c : Console) (line : CommandLine) (w : World σ) :
    Except ConsoleFault Unit × World σ :=
  match line.verb with
  | none => print (c.grammar.generalHelp false ++ "\n") w
  | some (name, matched) =>
    match c.registry.get? name with
    | none => (.error (.usage s!"Unknown verb {inQuotes name}.\n"), w)
    | some e =>
      match e.verb.invocation matched with
      | (_, .error fault) => (.error (.verb fault), w)
      | (_, .ok invocation) => c.execute starter e invocation (c.configPath line) w

/-- Reads a command line, given without the name of the program, and carries it out. -/
def run (parser : Parser) (starter : Starter) (c : Console) (words : List String) (w : World σ) :
    Except ConsoleFault Unit × World σ :=
  match parser c.grammar words with
  | .error (.help verb long) => print (c.grammar.requestedPage verb long) w
  | .error .version => print c.grammar.versionLine w
  | .error (.refused fault) => (.error (.usage fault.message), w)
  | .ok line => c.carryOut starter line w

end Console

end CommandVerbs
