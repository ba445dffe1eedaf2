import CommandVerbs.Bundle.Basic

/-!
# Commands

A command is a verb with a body, set between bundles. Its bundles are started in order, then the body
runs, then every bundle that is past its start is stopped, the last one first, whatever has failed.
The command fails with what failed first.
-/

namespace CommandVerbs

/-- What the body of a verb is given. -/
structure Context where
  verb : Verb
  bundles : List Bundle
  /-- runs the `go` hooks of the bundles and what the kind of the verb does after them -/
  go : Script Unit

/-- What a verb does between its bundles. -/
abbrev Body := Context → Script Unit

structure Command where
  verb : Verb
  body : Body
  bundles : List Bundle

namespace Command

def name (c : Command) : String :=
  c.verb.name

/-- Ends with the earlier of two faults. -/
def conclude (result : Except Fault Unit) (stopped : Option Fault) : Script Unit :=
  match result, stopped with
  | .ok (), none => return ()
  | .ok (), some fault => .fail fault
  | .error fault, none => .fail fault
  | .error fault, some stopFault => do
    Script.report (.stopFailedAfterFault stopFault.message)
    .fail fault

/-- Runs the command, whose body may run `go`. -/
def run (c : Command) (go : Script Unit) : Script Unit := do
  let (started, ready) ← Bundle.startAll c.verb [] c.bundles
  let result ← match ready with
    | .ok () => (c.body ⟨c.verb, c.bundles, go⟩).attempt
    | .error fault => pure (.error fault)
  let stopped ← Bundle.stopAll c.verb none started
  conclude result stopped

/-- Runs the `go` hooks of the bundles. -/
def goBundles (c : Command) : Script Unit :=
  Bundle.goAll c.verb c.bundles

/-- Runs the command; its `go` is the bundles' alone. -/
def execute (c : Command) : Script Unit :=
  c.run c.goBundles

end Command

end CommandVerbs
