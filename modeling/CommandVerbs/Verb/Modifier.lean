import CommandVerbs.Table
import CommandVerbs.Text.LetterCase
import CommandVerbs.Text.Quoted
import CommandVerbs.Verb.Command

/-!
# Commands with modifiers

Such a command does different things by the word that follows it. Its `go` runs the bundles' hooks
and then the body of the modifier that the first argument names. The word is put in lower case and
compared without regard to the case of A to Z.
-/

namespace CommandVerbs

structure Modifier where
  name : String
  body : Body
  description : String
  /-- what stands for the modifier's arguments in usage texts, in upper case; empty if it has none -/
  argument : String

namespace Modifier

/-- The modifier with a name for its arguments. -/
def declare (name : String) (body : Body) (description argument : String) : Modifier :=
  { name, body, description, argument := Text.upper argument }

/-- How the modifier of a verb is used. -/
def usage (m : Modifier) (verb : String) : String :=
  if m.argument.isEmpty then verb ++ " " ++ m.name
  else s!"{verb} {m.name} [ {m.argument} ... ]"

/-- The modifier quoted for inspection. -/
def inspected (m : Modifier) : String :=
  "Modifier \x7b name: " ++ Text.quoted m.name ++ ", description: " ++ Text.quoted m.description ++
    ", arg_name: " ++ Text.quoted m.argument ++ ", .. \x7d"

/-- The argument that names the modifier. -/
def selector : String := "modifier"

/-- The argument that holds the modifier's own arguments. -/
def trailing : String := "arg"

end Modifier

structure MultiCommand where
  command : Command
  modifiers : List Modifier

namespace MultiCommand

def name (m : MultiCommand) : String :=
  m.command.name

/-- The first modifier of a name, whatever the case of A to Z. -/
def findModifier? (m : MultiCommand) (name : String) : Option Modifier :=
  m.modifiers.find? fun modifier => Text.sameIgnoringAsciiCase modifier.name name

/-- Tells the user which modifiers there are. -/
def refuse (m : MultiCommand) (requested : String) : Script Unit := do
  Script.complain (s!"Invalid {inQuotes m.name} modifier {inQuotes requested}. " ++
    "Valid modifiers are listed below:") (m.modifiers.map (·.name))
  Script.help [m.name] false

/-- Runs the body of the requested modifier, which may run `go` in turn. -/
def dispatch (m : MultiCommand) (go : Script Unit) : Script Unit := do
  let requested := Text.lower (((← Script.values).text? Modifier.selector).getD "")
  match m.findModifier? requested with
  | some modifier => modifier.body ⟨m.command.verb, m.command.bundles, go⟩
  | none => m.refuse requested

/-- Runs the `go` hooks and the requested modifier. A modifier's body can ask for the same again; at
most `depth` runs lie inside one another. -/
def go (m : MultiCommand) : Nat → Script Unit
  | 0 => .unfinished
  | depth + 1 => do
    m.command.goBundles
    m.dispatch (m.go depth)

/-- Runs the command with at most `depth` runs of its `go` inside one another. -/
def execute (m : MultiCommand) (depth : Nat) : Script Unit :=
  m.command.run (m.go depth)

end MultiCommand

end CommandVerbs
