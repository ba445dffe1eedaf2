import CommandVerbs.Fault
import CommandVerbs.Spec.Argument
import CommandVerbs.Spec.Attributes
import CommandVerbs.Spec.Option

/-!
# Verbs

A verb is a name with options, positional arguments and attributes. Options are sorted and arguments
checked when they are first read after a change; until then their review is due. Reading therefore
returns the verb with the review done, or refuses the declaration with its first mistake.
-/

namespace CommandVerbs

/-- Whether a list has been looked through since its last change. -/
inductive Review where
  | done
  | due
  deriving DecidableEq, Repr, Inhabited

structure Verb where
  name : String
  attributes : Attributes := {}
  options : List OptionSpec := []
  optionsReview : Review := .done
  arguments : List ArgumentSpec := []
  argumentsReview : Review := .done
  classpath : Option String := none
  /-- values for the leading arguments that the declaration itself supplies -/
  supplied : List String := []
  deriving DecidableEq, Repr, Inhabited

namespace Verb

def findOption? (v : Verb) (dest : String) : Option OptionSpec :=
  v.options.find? (·.dest == dest)

def findArgument? (v : Verb) (name : String) : Option ArgumentSpec :=
  v.arguments.find? (·.name == name)

/-- Adds an option unless there is one for its destination. -/
def addOption (v : Verb) (o : OptionSpec) : Verb :=
  if (v.findOption? o.dest).isSome then v
  else { v with options := v.options ++ [o], optionsReview := .due }

def addOptions (v : Verb) (options : List OptionSpec) : Verb :=
  options.foldl addOption v

/-- Appends arguments in order. -/
def addArguments (v : Verb) (arguments : List ArgumentSpec) : Verb :=
  if arguments.isEmpty then v
  else { v with arguments := v.arguments ++ arguments, argumentsReview := .due }

/-- Supplies values for further leading arguments. -/
def supply (v : Verb) (values : List String) : Verb :=
  { v with supplied := v.supplied ++ values }

/-- Appends entries to the class path, separated by colons. -/
def addToClasspath (v : Verb) (paths : List String) : Verb :=
  { v with classpath := some (":".intercalate (v.classpath.toList ++ paths)) }

def complete (v : Verb) (defaults : Defaults) : Verb :=
  { v with attributes := v.attributes.complete defaults }

def mergeLaunchOptions (v : Verb) (options : List String) : Verb :=
  { v with attributes := v.attributes.mergeLaunchOptions options }

/-- What is wrong with an argument of the verb, if anything. -/
def mistake? (verb : String) (last : Bool) (a : ArgumentSpec) : Option DeclarationFault :=
  if a.min < 0 ∨ a.max.any (· < 0) then some (.negativeCount verb a.name)
  else if a.max.any (· < a.min) then some (.invertedCounts verb a.name)
  else if a.min = 0 ∧ a.max = some 0 then some (.zeroCounts verb a.name)
  else if !last && !a.single then some (.nonTerminalCounts verb a.name)
  else none

/-- The first mistake in a list of arguments. -/
def firstMistake? (verb : String) : List ArgumentSpec → Option DeclarationFault
  | [] => none
  | a :: rest => (mistake? verb rest.isEmpty a).or (firstMistake? verb rest)

/-- Sorts the options if that is due. -/
def reviewOptions (v : Verb) : Verb :=
  match v.optionsReview with
  | .done => v
  | .due => { v with options := OptionSpec.sorted v.options, optionsReview := .done }

/-- Checks the arguments if that is due. -/
def reviewArguments (v : Verb) : Except DeclarationFault Verb :=
  match v.argumentsReview with
  | .done => .ok v
  | .due =>
    match firstMistake? v.name v.arguments with
    | some mistake => .error mistake
    | none => .ok { v with argumentsReview := .done }

/-- Carries out what is due; the options are sorted even if the arguments are refused. -/
def validate (v : Verb) : Verb × Except DeclarationFault Unit :=
  let sorted := v.reviewOptions
  match sorted.reviewArguments with
  | .ok checked => (checked, .ok ())
  | .error fault => (sorted, .error fault)

/-- The arguments, once they have been checked. -/
def readArguments (v : Verb) : Verb × Except DeclarationFault (List ArgumentSpec) :=
  match v.reviewArguments with
  | .ok checked => (checked, .ok checked.arguments)
  | .error fault => (v, .error fault)

/-- The arguments for which no value is supplied, once they have been checked. -/
def readOpenArguments (v : Verb) : Verb × Except DeclarationFault (List ArgumentSpec) :=
  let (checked, arguments) := v.readArguments
  (checked, arguments.map (·.drop v.supplied.length))

end Verb

end CommandVerbs
