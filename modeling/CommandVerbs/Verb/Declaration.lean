import CommandVerbs.Verb.Modifier

/-!
# Declaring commands

A declaration lists what a program says about a verb. Making a command of it adds the declared
options and arguments, then lets the bundles complete the verb in order; a command with modifiers
finally gets its own arguments, which select a modifier and feed it.
-/

namespace CommandVerbs

structure Declaration where
  attributes : Attributes := {}
  options : List OptionSpec := []
  arguments : List ArgumentSpec := []
  classpath : Option String := none
  supplied : List String := []
  bundles : List Bundle := []
  modifiers : List Modifier := []
  deriving Inhabited

namespace Verb

/-- The verb that a declaration describes, without its bundles. -/
def ofDeclaration (name : String) (d : Declaration) : Verb :=
  let base : Verb :=
    { name, attributes := d.attributes, classpath := d.classpath, supplied := d.supplied }
  (base.addOptions d.options).addArguments d.arguments

end Verb

namespace Command

/-- Makes a command; the lines are what its bundles put into the event log. -/
def declare (name : String) (body : Body) (d : Declaration) : Command × List String :=
  let (verb, events) := Bundle.completeAll (.ofDeclaration name d) d.bundles
  ({ verb, body, bundles := d.bundles }, events)

end Command

namespace MultiCommand

/-- The table of a command's modifiers and what they do. -/
def variations (name : String) (modifiers : List Modifier) : Table :=
  { caption := some s!"{inQuotes name} Command Variations"
    separator := "  "
    rows := modifiers.map fun m => [m.usage name, m.description] }

/-- The argument that selects one of the modifiers. -/
def selectorArgument (modifiers : List Modifier) : ArgumentSpec :=
  { name := Modifier.selector
    help := "command modifier (valid modifiers: " ++ "|".intercalate (modifiers.map (·.name)) ++ ")" }

/-- The argument that takes what the modifiers work on, if any of them works on something. -/
def trailingArguments (modifiers : List Modifier) : List ArgumentSpec :=
  if modifiers.all (·.argument.isEmpty) then []
  else if modifiers.any (·.argument.isEmpty) then
    [{ name := Modifier.trailing, help := "optional arguments(s) (where applicable)"
       min := 0, max := none }]
  else [{ name := Modifier.trailing, help := "optional arguments(s)", min := 0, max := none }]

/-- Makes a command with modifiers, of which there has to be one. -/
def declare (name : String) (body : Body) (d : Declaration) :
    Except DeclarationFault (MultiCommand × List String) :=
  if d.modifiers.isEmpty then .error (.noModifiers name)
  else
    let (command, events) := Command.declare name body d
    let verb := ((command.verb.complete
        { epilogue := some (variations name d.modifiers).render }).addArguments
        [selectorArgument d.modifiers]).addArguments (trailingArguments d.modifiers)
    .ok (⟨{ command with verb }, d.modifiers⟩, events)

end MultiCommand

end CommandVerbs
