import CommandVerbs.Session.Script

/-!
# Faults at the console

Everything that can end a run of the program without success, the exit status that stands for it, and
what the user is shown.
-/

namespace CommandVerbs

inductive ConsoleFault where
  /-- the command line is refused; the text says why -/
  | usage (text : String)
  | declaration (fault : DeclarationFault)
  | verb (fault : Fault)
  /-- the program's own output could not be written -/
  | output (reason : String)
  deriving DecidableEq, Repr, Inhabited

namespace ConsoleFault

def message : ConsoleFault → String
  | .usage text => text
  | .declaration fault => s!"Invalid verb declaration: {fault.message}"
  | .verb fault => fault.message
  | .output reason => s!"IO error: {reason}"

/-- The exit status of a fault of a verb. -/
def verbStatus : Fault → Nat
  | .declaration _ | .unimplemented _ _ | .aborted _ _ => 1
  | .option _ => 2
  | .connection _ => 69
  | .process _ => 71
  | .output _ => 74
  | .config _ => 78

/-- The exit status of the program. -/
def status : ConsoleFault → Nat
  | .usage _ => 2
  | .declaration _ => 1
  | .verb fault => verbStatus fault
  | .output _ => 74

/-- What the user is shown. -/
def report : ConsoleFault → String
  | .usage text => text
  | fault@(.verb inner) => Script.messageText "ERROR" fault.message inner.details
  | fault => Script.messageText "ERROR" fault.message []

end ConsoleFault

end CommandVerbs
