import CommandVerbs.Rehearsal.Shell.Interpreter
import CommandVerbs.Text.Decimal
import CommandVerbs.Text.LetterCase

/-!
# Signals

The signals that the command `kill` knows, by number and name, and what it sends to which process.
-/

namespace CommandVerbs.Shell.Signal

/-- The names of the signals from number one on. -/
def names : List String :=
  ["HUP", "INT", "QUIT", "ILL", "TRAP", "ABRT", "BUS", "FPE", "KILL", "USR1", "SEGV", "USR2", "PIPE",
    "ALRM", "TERM", "STKFLT", "CHLD", "CONT", "STOP", "TSTP", "TTIN", "TTOU", "URG", "XCPU", "XFSZ",
    "VTALRM", "PROF", "WINCH", "IO", "PWR", "SYS"]

/-- One more than the largest number. -/
def limit : Nat := 65

/-- The signal of a number or a name. -/
def number? (text : String) : Option Nat :=
  match Text.digits? text.toList with
  | some n => if n < limit then some n else none
  | none =>
    let index := names.findIdx fun name => Text.sameIgnoringAsciiCase name text
    if index < names.length then some (index + 1) else none

/-- The name under which a trap is kept. -/
def trapName? (text : String) : Option String :=
  if Text.sameIgnoringAsciiCase text "EXIT" || text == "0" then some "EXIT"
  else (number? text).map toString

/-- The signal that no action is taken for. -/
def unstoppable : Nat := 9

/-- The signals that end no process. -/
def harmless : List Nat :=
  [0, 17, 18, 23, 28]

/-- A number that stands for a status or a process, with blanks around it. -/
def natural? (text : String) : Option Nat :=
  let trimmed := (text.toList.dropWhile Char.isWhitespace).reverse.dropWhile Char.isWhitespace
  (Text.integer? 0 0x7FFFFFFF trimmed.reverse).map Int.toNat

/-- What `kill` is asked for: the signal, and the processes. -/
def request? : List String → Option (Nat × List String)
  | [] => none
  | first :: rest =>
    match first.toList with
    | ['-', '-'] => if rest.isEmpty then none else some (15, rest)
    | ['-', 's'] =>
      match rest with
      | signal :: rest =>
        let processes := match rest with
          | "--" :: rest => rest
          | rest => rest
        if processes.isEmpty then none else (number? signal).map (·, processes)
      | [] => none
    | '-' :: name =>
      let asOption := match name with
        | 's' :: attached => number? (String.ofList attached)
        | _ => none
      match (number? (String.ofList name)).or asOption with
      | some signal => if rest.isEmpty then none else some (signal, rest)
      | none => none
    | _ => some (15, first :: rest)

end CommandVerbs.Shell.Signal
