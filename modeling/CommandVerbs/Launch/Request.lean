/-!
# Launch requests

What a verb asks for when it wants a program to be run.
-/

namespace CommandVerbs

structure LaunchRequest where
  /-- what to run -/
  target : String
  classpath : Option String := none
  /-- options in place of the launcher's own, unless empty -/
  options : List String := []
  debugPort : Option UInt16 := none
  /-- show the command line and run nothing -/
  dryRun : Bool := false
  arguments : List String := []
  deriving DecidableEq, Repr, Inhabited

end CommandVerbs
