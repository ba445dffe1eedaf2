import CommandVerbs.CommandLine.Matches

/-!
# Parsers of command lines

The library that reads a command line by its grammar is a parameter of the program. What it makes of a
command line is the verb that is named, with the matches for it, or how the reading has ended before.
-/

namespace CommandVerbs

/-- Why a command line is refused. -/
inductive UsageFault where
  | unknownArgument (word : String)
  | unknownVerb (word : String)
  /-- given twice at one level -/
  | repeated (id : String)
  | missingValue (id : String)
  | notInteger (id text : String)
  | tooManyValues (id : String)
  | tooFewValues (id : String)
  | otherValueCount (id : String)
  | missingArgument (id : String)
  deriving DecidableEq, Repr, Inhabited

/-- What the user is told about a command line that is refused. -/
def UsageFault.message (fault : UsageFault) : String :=
  let reason := match fault with
    | .unknownArgument word => s!"unexpected argument '{word}' found"
    | .unknownVerb word => s!"unrecognized subcommand '{word}'"
    | .repeated id => s!"the argument '{id}' cannot be used multiple times"
    | .missingValue id => s!"a value is required for '{id}' but none was supplied"
    | .notInteger id text => s!"invalid value '{text}' for '{id}'"
    | .tooManyValues id => s!"too many values for '{id}'"
    | .tooFewValues id => s!"too few values for '{id}'"
    | .otherValueCount id => s!"wrong number of values for '{id}'"
    | .missingArgument id => s!"the required argument '{id}' was not provided"
  s!"error: {reason}\n\nFor more information, try '--help'.\n"

/-- How the reading of a command line ends before its end. -/
inductive Stop where
  | refused (fault : UsageFault)
  /-- help is asked for, for a verb or for the program, by the long flag or by the short one -/
  | help (verb : Option String) (long : Bool)
  | version
  deriving DecidableEq, Repr, Inhabited

/-- A command line that has been read. -/
structure CommandLine where
  /-- the verb and what is given for it -/
  verb : Option (String × Matches)
  verbose : Bool
  /-- the configuration file that the command line or the environment names -/
  config : Option String
  deriving Inhabited

/-- Reads the words of a command line, given without the name of the program. -/
abbrev Parser := Grammar → List String → Except Stop CommandLine

end CommandVerbs
