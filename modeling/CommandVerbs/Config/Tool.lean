import CommandVerbs.KeyMap
import CommandVerbs.Session.Script
import CommandVerbs.Table
import CommandVerbs.Text.Blank
import CommandVerbs.Text.LetterCase
import CommandVerbs.Text.Split

/-!
# Configuration properties

A tool looks after the settings that lie under its key. Loading checks every property in name order:
a value that is set stays, a default is saved where none is set, and what is left is missing. The
`get`, `set` and `reset` commands read their arguments from the values of the command line.
-/

namespace CommandVerbs.Config

structure Property where
  description : String
  default : Option String := none
  deriving DecidableEq, Repr, Inhabited

structure Tool where
  /-- the key of all settings of the tool -/
  key : String
  properties : KeyMap Property := .empty
  /-- the program's name in instructions -/
  command : String := key
  /-- the configuration file's name in instructions -/
  fileName : String := key ++ ".cfg"
  deriving Inhabited

/-- What loading finds out about a property. -/
inductive Finding where
  | set (value : String)
  | defaulted (value : String)
  | missing
  deriving DecidableEq, Repr, Inhabited

/-- What loading finds out about all properties. -/
structure Loaded where
  /-- every property's value, if none is missing and nothing was reset -/
  values : Option (KeyMap String)
  missing : List String
  defaulted : List String
  /-- what to tell the user -/
  messages : List String
  deriving Inhabited

/-- The argument that holds what a configuration command works on. -/
def argumentName : String := "arg"

namespace Tool

/-- The key under which a property is stored. -/
def settingKey (tool : Tool) (name : String) : String :=
  tool.key ++ "." ++ name

/-- Instructions, with examples for the given properties. -/
def instructions (tool : Tool) (samples : List String) : String :=
  let hint := if samples.isEmpty then "" else " (using actual property name)"
  let names := if samples.isEmpty then ["name"] else samples
  let command := tool.command
  let settings := names.map fun name => s!"   {command} config set {name}={Text.upper name}_VALUE"
  "\n".intercalate (
    ["Use the \"config\" verb to modify and view properties as follows.", "",
      s!"To set a property{hint}:"] ++ settings ++
    ["", "To display one, many, or all properties:",
      s!"   {command} config get name",
      s!"   {command} config get name1 name2 ...",
      s!"   {command} config get",
      "", "To get \"config\" command help:",
      s!"   {command} help config", "",
      s!"You can also edit {inQuotes tool.fileName} directly in a text editor."])

/-- A table of properties under a sentence about them. -/
def listing (sentence heading : String) (rows : List (List String)) : String :=
  let table : Table := { headings := ["PROPERTY", heading], indent := 3, separator := "  ", rows }
  sentence ++ "\n\n" ++ table.render

/-- Checks a property and saves what a missing one is taken to be. -/
def settle (tool : Tool) (reset : Bool) (entry : String × Property) : Script (String × Finding) := do
  let (name, property) := entry
  let key := tool.settingKey name
  let stored := (← Script.getSetting key).filter fun value => value != "" && !reset
  match stored, property.default with
  | some value, _ => return (name, .set value)
  | none, none =>
    Script.setSetting key ""
    return (name, .missing)
  | none, some value =>
    Script.setSetting key value
    return (name, .defaulted value)

/-- The value that a finding gives a property. -/
def valueOf? : String × Finding → Option (String × String)
  | (name, .set value) | (name, .defaulted value) => some (name, value)
  | (_, .missing) => none

def missingOf? : String × Finding → Option String
  | (name, .missing) => some name
  | _ => none

def defaultOf? : String × Finding → Option (String × String)
  | (name, .defaulted value) => some (name, value)
  | _ => none

/-- A row for a missing property: its name and its description. -/
def describedRow (tool : Tool) (name : String) : List String :=
  [name, ((tool.properties.get? name).map (·.description)).getD ""]

/-- Puts findings together. -/
def summarize (tool : Tool) (reset : Bool) (findings : List (String × Finding)) : Loaded :=
  let missing := findings.filterMap missingOf?
  let defaults := findings.filterMap defaultOf?
  let incomplete := !reset && !missing.isEmpty
  let wanted := if incomplete then
      [listing "The following settings must be configured before proceeding:" "DESCRIPTION"
        (missing.map tool.describedRow)]
    else []
  let saved := if defaults.isEmpty then [] else
      [listing "The following setting defaults were applied and saved permanently:" "VALUE"
        (defaults.map fun (name, value) => [name, value])]
  let advice := if incomplete then [tool.instructions missing] else []
  { values :=
      if !reset && missing.isEmpty then some (.ofList (findings.filterMap valueOf?)) else none
    missing
    defaulted := defaults.map (·.1)
    messages := wanted ++ saved ++ advice }

/-- Checks every property, in name order. With `reset`, values that are set do not count. -/
def load (tool : Tool) (reset : Bool) : Script Loaded := do
  let findings ← tool.properties.toList.mapM (tool.settle reset)
  Script.report .propertiesLoaded
  return tool.summarize reset findings

/-- Loads and tells the user what there is to tell. -/
def loadAndReport (tool : Tool) (reset : Bool) : Script Loaded := do
  let loaded ← tool.load reset
  if !loaded.messages.isEmpty then
    loaded.messages.forM fun message => do
      Script.writeLine ""
      Script.writeLine message
    Script.writeLine ""
  return loaded

/-- The line that shows a pair. -/
def pairLine (pair : String × String) : String :=
  pair.1 ++ "=" ++ pair.2

/-- The lines that show the settings under a name of the tool. -/
def linesUnder (tool : Tool) (name : String) : Script (List String) := do
  let pairs ← Script.listSettings (some (tool.settingKey name))
  return if pairs.isEmpty then [name ++ " *not found*"] else pairs.map pairLine

/-- The lines that show all settings, or those under the given names. -/
def linesOf (tool : Tool) (names : List String) : Script (List String) := do
  if names.isEmpty then
    return (← Script.listSettings none).map pairLine
  else
    return (← names.mapM tool.linesUnder).flatten

/-- Prints all settings, or those under the names in the arguments. -/
def get (tool : Tool) : Script Unit := do
  let lines ← tool.linesOf ((← Script.values).list argumentName)
  lines.forM Script.writeLine

/-- The key that is meant by a word before the equals sign: a word without a dot is a property. -/
def resolveKey (tool : Tool) (word : String) : String :=
  if word.toList.contains '.' then word else tool.settingKey word

/-- The pair that an argument asks to be set. -/
def assignment? (tool : Tool) (argument : String) : Option (String × String) :=
  (Text.cutAt '=' argument).map fun (word, value) =>
    (tool.resolveKey (Text.trim word), Text.trim value)

/-- Sets a pair and says so. -/
def assign (pair : String × String) : Script Unit := do
  Script.setSetting pair.1 pair.2
  Script.writeLine ("set " ++ pairLine pair)

/-- Sets the pairs that the arguments ask for, if all of them are pairs. -/
def set (tool : Tool) : Script Unit := do
  let arguments := (← Script.values).list argumentName
  if arguments.isEmpty then
    Script.abort "At least one argument is required." []
  else
    let bad := arguments.filter fun argument => (tool.assignment? argument).isNone
    if bad.isEmpty then
      (arguments.filterMap tool.assignment?).forM assign
    else
      Script.abort "Bad arguments (must be KEY=VALUE format):" bad

/-- Puts every property back to its default and reports what is missing. -/
def reset (tool : Tool) : Script Unit := do
  Script.inform "Clearing configuration settings..." []
  let _ ← tool.loadAndReport true
  let _ ← tool.loadAndReport false

end Tool

end CommandVerbs.Config
