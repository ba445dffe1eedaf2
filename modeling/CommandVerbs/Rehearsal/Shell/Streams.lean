import CommandVerbs.Rehearsal.Shell.Interpreter

/-!
# Redirected streams

Where a command with redirections reads from and writes to. Of the output only the standard output is
followed.
-/

namespace CommandVerbs.Shell

/-- Where redirected output goes. -/
inductive Outlet where
  | nowhere
  | file (path : String)
  deriving DecidableEq, Repr

/-- The streams that redirections change. -/
structure Streams where
  input : Option (List Char) := none
  output : Option Outlet := none
  deriving DecidableEq, Repr

namespace Streams

/-- Opens a file to be written. Nothing comes of a place where there can be no file. -/
def openOutput? (fresh : Bool) (path : String) : Run (Option Outlet) := do
  let i ← get
  let parent := (Path.parent? path).getD "."
  let content := if fresh then "" else (i.fileText? path).getD ""
  if Interpreter.commonFiles.contains path then return some .nowhere
  else match i.files.write path (.text content) with
    | .ok files =>
      set { i with files }
      return some (.file path)
    | .error _ =>
      if path != "" && Interpreter.commonDirectories.contains parent && !i.isDirectory path then
        return some .nowhere
      else return none

/-- Opens a redirection. Nothing comes of one that cannot be opened. -/
def redirected? (s : Streams) (descriptor : Nat) (kind : Redirection.Kind) (target : String) :
    Run (Option Streams) := do
  let withInput := fun (text : String) =>
    if descriptor = 0 then { s with input := some text.toList } else s
  let withOutput := fun (outlet : Outlet) =>
    if descriptor = 1 then { s with output := some outlet } else s
  match kind with
  | .document => return some (withInput target)
  | .input =>
    let i ← get
    let text := if i.isDirectory target then some "" else i.fileText? target
    return text.map withInput
  | .output => return (← openOutput? true target).map withOutput
  | .append => return (← openOutput? false target).map withOutput
  | .copy =>
    match target.toList with
    | ['-'] => return some (if descriptor = 0 then withInput "" else withOutput .nowhere)
    | ['0'] | ['2'] => return some (withOutput .nowhere)
    | ['1'] => return some s
    | _ => return none

/-- Runs a command with redirected streams. -/
def around (s : Streams) (run : Run Nat) : Run Nat := do
  let outer ← get
  set { outer with written := "", input := s.input.getD outer.input }
  let result ← attempt run
  let inner ← get
  let input := if s.input.isSome then outer.input else inner.input
  match s.output with
  | none => set { inner with input, written := outer.written ++ inner.written }
  | some .nowhere => set { inner with input, written := outer.written }
  | some (.file path) =>
    let content := (inner.fileText? path).getD "" ++ inner.written
    let files := (inner.files.write path (.text content)).toOption.getD inner.files
    set { inner with input, files, written := outer.written }
  MonadExcept.ofExcept result

end Streams

end CommandVerbs.Shell
