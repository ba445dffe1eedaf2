import CommandVerbs.Registry

/-!
# Grammars of command lines

What the command line of a program may say. At each of its two levels, before the name of a verb and
after it, there are switches, known by a short or a long flag, and after the name also positional
arguments. The grammar of a verb follows from its options and its open arguments.
-/

namespace CommandVerbs

/-- What a switch does where it stands on the command line. -/
inductive SwitchAction where
  /-- is raised -/
  | raise
  | takeText
  | takeInteger
  /-- takes a path, which may not be empty -/
  | takePath
  | showHelp
  | showVersion
  deriving DecidableEq, Repr, Inhabited

structure Switch where
  id : String
  short : Option Char := none
  long : Option String := none
  action : SwitchAction
  /-- what stands for its value in usage texts -/
  valueName : String := ""
  help : String := ""
  /-- the variable of the environment that gives a value if the command line does not -/
  environmentName : Option String := none
  hidden : Bool := false
  deriving DecidableEq, Repr, Inhabited

namespace Switch

/-- Whether a value belongs to the switch. -/
def takesValue (s : Switch) : Bool :=
  match s.action with
  | .takeText | .takeInteger | .takePath => true
  | .raise | .showHelp | .showVersion => false

/-- The action that finds the value of an option. -/
def actionOf : OptionKind → SwitchAction
  | .flag => .raise
  | .integer => .takeInteger
  | .text | .hosts _ _ _ => .takeText

/-- What stands for the value of an option. -/
def valueNameOf (o : OptionSpec) : String :=
  match o.kind with
  | .flag => ""
  | .integer => "N"
  | .text => Text.upper o.dest
  | .hosts _ _ _ => "HOST[:PORT]"

/-- The switch of an option. An option without any flag gets its destination as a long one. -/
def ofOption (o : OptionSpec) : Switch :=
  { id := o.dest
    short := o.short
    long := if o.short.isNone then some (o.long.getD o.dest) else o.long
    action := actionOf o.kind
    valueName := valueNameOf o
    help := o.help.getD ""
    hidden := o.hidden }

/-- Says more about what the program does. -/
def verbose : Switch :=
  { id := "verbose", short := some 'v', long := some "verbose", action := .raise
    help := "Enable verbose/debug output" }

/-- The variable that names the configuration file. -/
def configVariable : String := "VERBKIT_CONFIG"

/-- Names the configuration file. -/
def config : Switch :=
  { id := "config_file", long := some "config", action := .takePath, valueName := "PATH"
    help := "Configuration file to read and update"
    environmentName := some configVariable }

/-- Shows help instead of anything else. -/
def showHelp : Switch :=
  { id := "help", short := some 'h', long := some "help", action := .showHelp, help := "Print help" }

/-- Shows the program's version instead of anything else. -/
def showVersion : Switch :=
  { id := "version", short := some 'V', long := some "version", action := .showVersion
    help := "Print version" }

/-- The switches that may stand at either level. -/
def everywhere : List Switch :=
  [verbose, config]

end Switch

/-- A positional argument as the command line has it, with at least one value. -/
structure Positional where
  id : String
  valueName : String
  help : String
  required : Bool
  min : Nat
  max : Option Nat
  /-- takes everything that follows, whatever it looks like -/
  takesRest : Bool := false
  deriving DecidableEq, Repr, Inhabited

namespace Positional

/-- The positional argument of a declared one. That none of its values may be given makes it optional;
given ones are at least one. -/
def ofArgument (a : ArgumentSpec) : Positional :=
  { id := a.name
    valueName := Text.upper a.name
    help := a.help
    required := a.required
    min := Nat.max a.min.toNat 1
    max := a.max.map fun max => Nat.max max.toNat 1 }

/-- What a verb passes on. -/
def passedOn : Positional :=
  { id := "passthrough_args"
    valueName := "ARGS"
    help := "arguments passed through unchanged"
    required := false
    min := 1
    max := none
    takesRest := true }

/-- Whether there may be, or have to be, several values. -/
def repeats (p : Positional) : Bool :=
  p.max != some 1 || p.min != 1

end Positional

/-- What may be said at one level of a command line. -/
structure Level where
  /-- the verb whose level it is; none before the name of a verb -/
  verb : Option String
  switches : List Switch
  positionals : List Positional := []
  /-- the names of the verbs that may follow -/
  verbs : List String := []
  deriving DecidableEq, Repr, Inhabited

namespace Level

/-- The first switch with a short flag. -/
def byShort? (l : Level) (flag : Char) : Option Switch :=
  l.switches.find? (·.short == some flag)

/-- The first switch with a long flag. -/
def byLong? (l : Level) (flag : String) : Option Switch :=
  l.switches.find? (·.long == some flag)

end Level

/-- What may follow the name of a verb, and what help says about it. -/
structure VerbGrammar where
  name : String
  about : Option String
  epilogue : Option String
  usage : Option String
  base : Bool
  hidden : Bool
  /-- the verb's own switches, in listing order -/
  switches : List Switch
  positionals : List Positional
  deriving DecidableEq, Repr, Inhabited

namespace VerbGrammar

/-- The switches that a verb shares with the program, less those whose place it has taken. -/
def shared (own : List Switch) : List Switch :=
  Switch.everywhere.filter fun s => !own.any (·.id == s.id)

def level (g : VerbGrammar) : Level :=
  { verb := some g.name
    switches := g.switches ++ shared g.switches ++ [Switch.showHelp]
    positionals := g.positionals }

/-- The grammar of a verb with open arguments. -/
def ofChecked (v : Verb) (arguments : List ArgumentSpec) : VerbGrammar :=
  { name := v.name
    about := v.attributes.description
    epilogue := v.attributes.epilogue
    usage := v.attributes.usage
    base := v.attributes.base
    hidden := v.attributes.hidden
    switches := v.options.map Switch.ofOption
    positionals := arguments.map Positional.ofArgument ++
      (if v.attributes.passthrough then [Positional.passedOn] else []) }

/-- Looks through a verb and makes its grammar. -/
def ofVerb (v : Verb) : Verb × Except DeclarationFault VerbGrammar :=
  let (checked, arguments) := v.reviewOptions.readOpenArguments
  (checked, arguments.map (ofChecked checked))

end VerbGrammar

/-- What the command line of a program may say. -/
structure Grammar where
  program : Program
  verbs : List VerbGrammar
  /-- the configuration file that the environment names -/
  configured : Option String := none
  deriving DecidableEq, Repr, Inhabited

namespace Grammar

/-- The grammar of a program with registered verbs. -/
def ofRegistry (program : Program) (configured : Option String) (r : Registry) :
    Registry × Except DeclarationFault Grammar :=
  let (verbs, grammars) := Registry.visit VerbGrammar.ofVerb r.verbs r.order
  ({ r with verbs }, grammars.map fun grammars => { program, verbs := grammars, configured })

def verb? (g : Grammar) (name : String) : Option VerbGrammar :=
  g.verbs.find? (·.name == name)

/-- The level before the name of a verb. -/
def root (g : Grammar) : Level :=
  { verb := none
    switches := Switch.everywhere ++ [Switch.showHelp, Switch.showVersion]
    verbs := g.verbs.map (·.name) }

end Grammar

end CommandVerbs
