import CommandVerbs.Session.Script
import CommandVerbs.Verb.Basic

/-!
# Bundles

A bundle is behaviour that several verbs share. It may complete a verb when the verb is declared, and
take part in its execution before the body, when the body asks for it, and after the body. A bundle
names the hooks that it takes part with; the others are passed over, whatever they would do.
-/

namespace CommandVerbs

/-- A choice of hooks. -/
structure Hooks where
  complete : Bool := false
  start : Bool := false
  go : Bool := false
  stop : Bool := false
  deriving DecidableEq, Repr, Inhabited

namespace Hooks

def all : Hooks :=
  { complete := true, start := true, go := true, stop := true }

/-- The names of the hooks. -/
def names (h : Hooks) : List String :=
  (if h.complete then ["initialize"] else []) ++ (if h.start then ["start"] else []) ++
    (if h.go then ["go"] else []) ++ (if h.stop then ["stop"] else [])

end Hooks

structure Bundle where
  /-- the hooks that the bundle takes part with -/
  hooks : Hooks := {}
  /-- completes a verb; the lines go into the event log -/
  complete : Verb → Verb × List String := fun v => (v, [])
  start : Verb → Script Unit := fun _ => return ()
  go : Verb → Script Unit := fun _ => return ()
  stop : Verb → Script Unit := fun _ => return ()
  deriving Inhabited

namespace Bundle

/-- Completes a verb with the bundles in order. -/
def completeAll (v : Verb) : List Bundle → Verb × List String
  | [] => (v, [])
  | b :: rest =>
    if b.hooks.complete then
      let (v, events) := b.complete v
      let (v, later) := completeAll v rest
      (v, events ++ later)
    else completeAll v rest

/-- Starts the bundles in order up to the first that fails. Returns those that are past their start,
the last one first, after those in `started`. -/
def startAll (v : Verb) (started : List Bundle) :
    List Bundle → Script (List Bundle × Except Fault Unit)
  | [] => return (started, .ok ())
  | b :: rest =>
    if b.hooks.start then do
      match ← (b.start v).attempt with
      | .ok () => startAll v (b :: started) rest
      | .error fault => return (started, .error fault)
    else startAll v (b :: started) rest

/-- Runs the `go` hooks in order up to the first that fails. -/
def goAll (v : Verb) : List Bundle → Script Unit
  | [] => return ()
  | b :: rest =>
    if b.hooks.go then do
      b.go v
      goAll v rest
    else goAll v rest

/-- Stops all bundles in the given order and returns the first fault; the later ones are reported. -/
def stopAll (v : Verb) (first : Option Fault) : List Bundle → Script (Option Fault)
  | [] => return first
  | b :: rest =>
    if b.hooks.stop then do
      match ← (b.stop v).attempt, first with
      | .ok (), _ => stopAll v first rest
      | .error fault, none => stopAll v (some fault) rest
      | .error fault, some _ => do
        Script.report (.stopFailed fault.message)
        stopAll v first rest
    else stopAll v first rest

end Bundle

end CommandVerbs
