import CommandVerbs.Rehearsal.Shell.Interpreter
import CommandVerbs.Text.Decimal

/-!
# Conditions

What the command `test` decides: texts, integers and files, joined by `-a`, `-o`, `!` and parentheses.
Nothing comes of what is no condition.
-/

namespace CommandVerbs.Shell.Condition

/-- The integer of an operand, which may have blanks around it. -/
def integer? (text : String) : Option Int :=
  let trimmed := (text.toList.dropWhile Char.isWhitespace).reverse.dropWhile Char.isWhitespace
  Text.integer? (-0x8000000000000000) 0x7FFFFFFFFFFFFFFF trimmed.reverse

/-- What an operator between two operands decides, if it is one. -/
def binary? (operator : String) : Option (String → String → Option Bool) :=
  let integers := fun (f : Int → Int → Bool) (a b : String) => do
    return f (← integer? a) (← integer? b)
  match operator with
  | "=" => some fun a b => some (a == b)
  | "!=" => some fun a b => some (a != b)
  | "<" => some fun a b => some (a < b)
  | ">" => some fun a b => some (b < a)
  | "-eq" => some (integers (· == ·))
  | "-ne" => some (integers (· != ·))
  | "-lt" => some (integers (· < ·))
  | "-le" => some (integers (· ≤ ·))
  | "-gt" => some (integers (· > ·))
  | "-ge" => some (integers (· ≥ ·))
  | "-nt" | "-ot" | "-ef" => some fun _ _ => some false
  | _ => none

/-- What an operator before an operand decides, if it is one. -/
def unary? (i : Interpreter) (operator : String) : Option (String → Bool) :=
  let present := fun path => i.isFile path || i.isDirectory path
  match operator with
  | "-n" => some (· != "")
  | "-z" => some (· == "")
  | "-e" | "-r" | "-w" => some present
  | "-f" => some fun path => i.isFile path && !(path.startsWith "/dev/")
  | "-d" => some i.isDirectory
  | "-c" => some (·.startsWith "/dev/")
  | "-s" => some fun path => i.isDirectory path || (i.isFile path && i.fileText? path != some "")
  | "-x" => some fun path =>
      i.isDirectory path || path.startsWith "/bin/" && i.isFile path ||
        i.files.mode? path == some FileTree.programMode
  | "-b" | "-p" | "-S" | "-h" | "-L" | "-u" | "-g" | "-k" | "-t" => some fun _ => false
  | "-O" | "-G" => some present
  | _ => none

mutual

/-- Conditions joined by `-o`, and the words after them. -/
def either (i : Interpreter) : (fuel : Nat) → List String → Option (Bool × List String)
  | 0, _ => none
  | fuel + 1, words => do
    let (left, rest) ← both i fuel words
    match rest with
    | "-o" :: rest =>
      let (right, rest) ← either i fuel rest
      return (left || right, rest)
    | rest => return (left, rest)

/-- Conditions joined by `-a`, and the words after them. -/
def both (i : Interpreter) : (fuel : Nat) → List String → Option (Bool × List String)
  | 0, _ => none
  | fuel + 1, words => do
    let (left, rest) ← negation i fuel words
    match rest with
    | "-a" :: rest =>
      let (right, rest) ← both i fuel rest
      return (left && right, rest)
    | rest => return (left, rest)

/-- A condition that may be negated, and the words after it. -/
def negation (i : Interpreter) : (fuel : Nat) → List String → Option (Bool × List String)
  | 0, _ => none
  | fuel + 1, words =>
    match words with
    | "!" :: rest@(_ :: _) => (negation i fuel rest).map fun (b, rest) => (!b, rest)
    | words => single i fuel words

/-- A single condition, and the words after it. -/
def single (i : Interpreter) : (fuel : Nat) → List String → Option (Bool × List String)
  | 0, _ => none
  | fuel + 1, words =>
    let byOperator := match words with
      | a :: operator :: b :: rest =>
        (binary? operator).map fun decide => (decide a b).map fun value => (value, rest)
      | _ => none
    match byOperator with
    | some decided => decided
    | none =>
      match words with
      | "(" :: rest =>
        match either i fuel rest with
        | some (value, ")" :: rest) => some (value, rest)
        | _ => none
      | operator :: operand :: rest =>
        match unary? i operator with
        | some decide => some (decide operand, rest)
        | none => some (operator != "", operand :: rest)
      | [text] => some (text != "", [])
      | [] => none

end

/-- What words decide. -/
def holds? (i : Interpreter) (words : List String) : Option Bool :=
  match words with
  | [] => some false
  | words =>
    match either i (8 * (words.length + 1)) words with
    | some (value, []) => some value
    | _ => none

end CommandVerbs.Shell.Condition
