import CommandVerbs.Bundle.Basic

/-!
# Recording bundles

A bundle for trying out how bundles are run: each of its hooks puts a line with its name and the
bundle's label into the event log, and may then fail.
-/

namespace CommandVerbs

structure RecordingBundle where
  label : String
  hooks : Hooks := .all
  failsStart : Bool := false
  failsStop : Bool := false
  deriving DecidableEq, Repr, Inhabited

namespace RecordingBundle

/-- The line of a hook. -/
def line (b : RecordingBundle) (hook : String) : String :=
  s!"{hook}({b.label})"

/-- Records a hook, which may then fail. -/
def run (b : RecordingBundle) (hook : String) (fails : Bool) : Script Unit := do
  Script.note (b.line hook)
  if fails then Script.fail (.aborted s!"{b.line hook} failed" [])

def bundle (b : RecordingBundle) : Bundle :=
  { hooks := b.hooks
    complete := fun v => (v, [b.line "initialize"])
    start := fun _ => b.run "start" b.failsStart
    go := fun _ => b.run "go" false
    stop := fun _ => b.run "stop" b.failsStop }

end RecordingBundle

end CommandVerbs
