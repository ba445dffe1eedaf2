/-!
# Faults

Everything that can go wrong while verbs are declared and executed, by cause, and the one wording of
each cause.
-/

namespace CommandVerbs

/-- A verb was declared wrongly. -/
inductive DeclarationFault where
  | duplicateVerb (verb : String)
  | noModifiers (verb : String)
  | negativeCount (verb argument : String)
  | invertedCounts (verb argument : String)
  | zeroCounts (verb argument : String)
  | nonTerminalCounts (verb argument : String)
  deriving DecidableEq, Repr, Inhabited

/-- A value on the command line was refused. -/
inductive OptionFault where
  | invalidHost (value reason : String)
  | hostCount (dest : String) (min max actual : Nat)
  | missing (dest : String)
  deriving DecidableEq, Repr, Inhabited

/-- The configuration could not be kept or read. -/
inductive ConfigFault where
  | storage (reason : String)
  | malformed (entry : String)
  deriving DecidableEq, Repr, Inhabited

/-- The remote service could not be used. -/
inductive ConnectionFault where
  | unreachable (target : String) (attempts : Nat) (reason : String)
  | notConnected
  | protocol (reason : String)
  | close (reason : String)
  deriving DecidableEq, Repr, Inhabited

/-- A launched program failed. -/
inductive ProcessFault where
  | startFailed (program reason : String)
  | nonZeroExit (program : String) (code : Int)
  | terminated (program : String)
  deriving DecidableEq, Repr, Inhabited

/-- A verb failed while it was executed. -/
inductive Fault where
  | declaration (fault : DeclarationFault)
  /-- the verb of the given kind has nothing to execute -/
  | unimplemented (kind verb : String)
  /-- stopped on purpose, with a message for the user -/
  | aborted (message : String) (details : List String)
  | option (fault : OptionFault)
  | config (fault : ConfigFault)
  | connection (fault : ConnectionFault)
  | process (fault : ProcessFault)
  /-- output could not be written -/
  | output (reason : String)
  deriving DecidableEq, Repr, Inhabited

/-- The text between double quotes, as it stands. -/
def inQuotes (s : String) : String :=
  "\"" ++ s ++ "\""

def DeclarationFault.message : DeclarationFault → String
  | .duplicateVerb verb => s!"Verb {inQuotes verb} is declared more than once."
  | .noModifiers verb =>
    s!"Multi-command {inQuotes verb} must provide a \"modifiers\" list."
  | .negativeCount verb argument =>
    s!"{verb} argument ({argument}) has a negative min or max count declared."
  | .invertedCounts verb argument =>
    s!"{verb} argument ({argument}) has a max count lower than its min count."
  | .zeroCounts verb argument =>
    s!"{verb} argument ({argument}) has zero min and max counts declared."
  | .nonTerminalCounts verb argument =>
    s!"{verb} argument ({argument}) is not the last argument, but has min/max counts declared."

def OptionFault.message : OptionFault → String
  | .invalidHost value reason => s!"Invalid host {inQuotes value}: {reason}"
  | .hostCount dest min max actual =>
    s!"Option {inQuotes dest} expects between {min} and {max} host(s), got {actual}"
  | .missing dest => s!"Missing value for {inQuotes dest}"

def ConfigFault.message : ConfigFault → String
  | .storage reason => s!"Configuration storage error: {reason}"
  | .malformed entry => s!"Malformed configuration entry: {entry}"

def ConnectionFault.message : ConnectionFault → String
  | .unreachable target attempts reason =>
    s!"Unable to connect to {target} after {attempts} attempt(s): {reason}"
  | .notConnected => "Not connected"
  | .protocol reason => s!"Protocol error: {reason}"
  | .close reason => s!"Failed to close connection: {reason}"

def ProcessFault.message : ProcessFault → String
  | .startFailed program reason => s!"Failed to start {program}: {reason}"
  | .nonZeroExit program code => s!"{program} exited with status {code}"
  | .terminated program => s!"{program} was terminated by a signal"

def Fault.message : Fault → String
  | .declaration fault => fault.message
  | .unimplemented kind verb =>
    s!"{kind} {inQuotes verb} object does not implement the required execute() method."
  | .aborted message _ => message
  | .option fault => fault.message
  | .config fault => fault.message
  | .connection fault => fault.message
  | .process fault => fault.message
  | .output reason => s!"Output error: {reason}"

/-- The lines that follow the message of an abort. -/
def Fault.details : Fault → List String
  | .aborted _ details => details
  | _ => []

end CommandVerbs
