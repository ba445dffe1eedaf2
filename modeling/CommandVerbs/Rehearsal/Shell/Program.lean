import CommandVerbs.Rehearsal.Shell.Builtin
import CommandVerbs.Text.Split

/-!
# Installed programs

The programs that run no other one, as far as their status and what they write matter.
-/

namespace CommandVerbs.Shell

/-- The programs that are installed, by their names. -/
def programNames : List String :=
  ["sh", "dash", "bash", "true", "false", "echo", "printf", "test", "[", "pwd", "kill", "sleep", "cat",
    "env", "ls", "touch", "mkdir", "rm", "chmod", "date", "uname", "id", "whoami", "hostname", "nohup",
    "nice", "timeout", "expr", "seq", "head", "tail", "wc", "grep", "sort", "basename", "dirname"]

/-- The name of an installed program, given by its name or its path. -/
def program? (command : String) : Option String :=
  let isIn := fun directory => programNames.find? fun name => command == directory ++ name
  (isIn "").or ((isIn "/bin/").or (isIn "/usr/bin/"))

/-- The status of a command that is no installed program. -/
def missingStatus (i : Interpreter) (command : String) : Nat :=
  if command.toList.contains '/' && (i.isDirectory command || i.isFile command) then noProgram
  else unknownCommand

/-! ## Sums -/

namespace Sum

/-- The operators by how tightly they bind, the loosest first. -/
def levels : List (List String) :=
  [["|"], ["&"], ["<", "<=", "=", "==", "!=", ">=", ">"], ["+", "-"], ["*", "/", "%"]]

/-- Whether an operand counts as false. -/
def isNull (text : String) : Bool :=
  text == "" || Condition.integer? text == some 0

/-- What an operator makes of two operands. -/
def result? (operator a b : String) : Option String :=
  let truth := fun b => some (if b then "1" else "0")
  let compared := fun (order : Ordering → Bool) =>
    match Condition.integer? a, Condition.integer? b with
    | some m, some n => truth (order (compare m n))
    | _, _ => truth (order (compare a b))
  let computed := fun (f : Int → Int → Option Int) => do
    return toString (← f (← Condition.integer? a) (← Condition.integer? b))
  match operator with
  | "|" => some (if !isNull a then a else if isNull b then "0" else b)
  | "&" => some (if isNull a || isNull b then "0" else a)
  | "<" => compared (·.isLT)
  | "<=" => compared (·.isLE)
  | "=" | "==" => compared (·.isEq)
  | "!=" => compared (·.isNe)
  | ">=" => compared (·.isGE)
  | ">" => compared (·.isGT)
  | "+" => computed fun m n => some (m + n)
  | "-" => computed fun m n => some (m - n)
  | "*" => computed fun m n => some (m * n)
  | "/" => computed fun m n => if n = 0 then none else some (m.tdiv n)
  | _ => computed fun m n => if n = 0 then none else some (m.tmod n)

mutual

/-- The value of operands joined by operators of some levels, and the words after them. -/
def read? : (fuel : Nat) → List (List String) → List String → Option (String × List String)
  | 0, _, _ => none
  | fuel + 1, [], words =>
    match words with
    | "(" :: rest =>
      match read? fuel levels rest with
      | some (value, ")" :: rest) => some (value, rest)
      | _ => none
    | word :: rest => some (word, rest)
    | [] => none
  | fuel + 1, level :: tighter, words => do
    let (left, rest) ← read? fuel tighter words
    readFrom? fuel level tighter left rest

/-- The value of an operand with the operators that follow it, and the words after them. -/
def readFrom? : (fuel : Nat) → List String → List (List String) → String → List String →
    Option (String × List String)
  | 0, _, _, _, _ => none
  | _, _, _, left, [] => some (left, [])
  | fuel + 1, level, tighter, left, operator :: rest =>
    if level.contains operator then do
      let (right, rest) ← read? fuel tighter rest
      readFrom? fuel level tighter (← result? operator left right) rest
    else some (left, operator :: rest)

end

/-- The value of a sum. -/
def value? (words : List String) : Option String :=
  match read? (8 * (words.length + 1)) levels words with
  | some (value, []) => some value
  | _ => none

end Sum

/-- Shows the value of a sum; its status tells whether it is null. -/
def sum (words : List String) : Run Nat :=
  match Sum.value? words with
  | none => return misuse
  | some value => do
    write (value ++ "\n")
    return if Sum.isNull value then 1 else 0

/-! ## Texts -/

/-- Whether an argument is an option. -/
def isOption (argument : String) : Bool :=
  argument.startsWith "-" && argument != "-"

/-- Uses the text of the given files, or else the input. A missing file has a status of its own. -/
def withText (paths : List String) (use : String → Run Nat) (missing : Nat) : Run Nat := do
  let i ← get
  if paths.isEmpty then
    set { i with input := [] }
    use (String.ofList i.input)
  else
    let texts := paths.map fun path => if path = "-" then some (String.ofList i.input) else i.fileText? path
    let status ← use (String.join (texts.map (·.getD "")))
    return if texts.all Option.isSome then status else missing

/-- The lines of a text. -/
def linesOf (text : String) : List String :=
  let lines := Text.splitAt '\n' text
  if lines.getLast? = some "" then lines.dropLast else lines

def writeLines (lines : List String) : Run Nat := do
  lines.forM fun line => write (line ++ "\n")
  return 0

/-- Shows a part of the lines. The number of lines comes as an option. -/
def part (choose : Nat → List String → List String) : List String → Run Nat
  | "-n" :: number :: paths => shown (Signal.natural? number) paths
  | first :: paths =>
    if isOption first then
      let digits := first.toList.drop (if first.startsWith "-n" then 2 else 1)
      shown (Signal.natural? (String.ofList digits)) paths
    else shown (some 10) (first :: paths)
  | [] => shown (some 10) []
where
  /-- Shows as many lines as there is a number for. -/
  shown (number : Option Nat) (paths : List String) : Run Nat :=
    match number with
    | none => return 1
    | some n => withText paths (fun text => writeLines (choose n (linesOf text))) 1

/-- Counts what an option asks for. -/
def count (arguments : List String) : Run Nat :=
  withText (arguments.filter (!isOption ·)) (fun text => do
    let n := if arguments.contains "-c" then text.utf8ByteSize
      else if arguments.contains "-w" then
        ((text.map fun c => if c.isWhitespace then ' ' else c).splitOn " ").countP (· != "")
      else text.toList.count '\n'
    write (toString n ++ "\n")
    return 0) 1

/-- Shows the lines that hold a text. -/
def search (arguments : List String) : Run Nat :=
  let options := arguments.filter isOption
  match arguments.filter (!isOption ·) with
  | [] => return misuse
  | pattern :: paths => withText paths (fun text => do
      let found := (linesOf text).filter fun line =>
        (1 < (line.splitOn pattern).length || pattern == "") != options.contains "-v"
      if !options.contains "-q" then discard (writeLines found)
      return if found.isEmpty then 1 else 0) misuse

/-- Shows the integers from one to another. -/
def sequence (arguments : List String) : Run Nat :=
  match arguments.mapM Condition.integer? with
  | some [last] => shown 1 1 last
  | some [first, last] => shown first 1 last
  | some [first, step, last] => if step = 0 then return 1 else shown first step last
  | _ => return 1
where
  /-- Shows the integers in steps. -/
  shown (first step last : Int) : Run Nat :=
    let turns := ((last - first).tdiv step + 1).toNat
    writeLines (if (last - first) * step < 0 then []
      else (List.range turns).map fun n => toString (first + step * Int.ofNat n))

/-- Shows the last name of a path. -/
def lastName : List String → Run Nat
  | [] => return 1
  | path :: ending => do
    let name := (Path.names path).getLast?.getD "/"
    let shorter := ending.head?.filter fun e => name.endsWith e && name != e
    write (String.ofList (name.toList.take (name.length - (shorter.getD "").length)) ++ "\n")
    return 0

/-! ## Files -/

/-- Whether a text is an amount of time. -/
def isDuration (text : String) : Bool :=
  let digits := text.toList.filter (· != '.')
  !digits.isEmpty && (digits.all Char.isDigit || (digits.dropLast.all Char.isDigit &&
    1 < digits.length && digits.getLast?.any ['s', 'm', 'h', 'd'].contains))

/-- Does something with the files for each path. If it fails for one, so does the program. -/
def forPaths (arguments : List String) (change : FileTree → String → Option FileTree) : Run Nat := do
  let paths := arguments.filter (!isOption ·)
  let results ← paths.mapM fun path => do
    let i ← get
    match change i.files path with
    | some files => set { i with files }; return true
    | none => return false
  return if paths.isEmpty || !results.all id then 1 else 0

/-- Makes directories; with an option, those on the way too. -/
def makeDirectories (arguments : List String) : Run Nat := do
  let i ← get
  forPaths arguments fun files path =>
    if arguments.contains "-p" then
      if i.isDirectory path then some files
      else match files.makeDirectories path with
        | (files, .ok ()) => some files
        | _ => none
    else (files.makeDirectory path).toOption

/-- Makes empty files where there are none. -/
def touch (arguments : List String) : Run Nat :=
  forPaths arguments fun files path =>
    if files.contains path then some files else (files.write path (.text "")).toOption

/-- Removes files, and directories if an option asks for it. -/
def remove (arguments : List String) : Run Nat := do
  let has := fun (letter : Char) => arguments.any fun a => isOption a && a.toList.contains letter
  let status ← forPaths arguments fun files path =>
    match files.locate path with
    | .error _ => if has 'f' then some files else none
    | .ok place =>
      if !files.contains path then if has 'f' then some files else none
      else if files.isDirectory path && !has 'r' then none
      else some { files with nodes := files.nodes.filter fun node => !place.isPrefixOf node.1 }
  return if has 'f' && arguments.all isOption then 0 else status

/-- Makes files programs, or mere files. -/
def changeMode : List String → Run Nat
  | mode :: paths =>
    let digits := mode.toList.all Char.isDigit
    let asProgram := if digits then mode.toList.any (fun c => c.toNat % 2 = 1)
      else mode.toList.contains 'x' && !mode.toList.contains '-'
    forPaths paths fun files path =>
      (files.setMode path (if asProgram then FileTree.programMode else FileTree.plainMode)).toOption
  | [] => return 1

/-- An installed program that runs no other one. -/
def runProgram (name : String) (arguments : List String) : Run Nat := do
  let operands := arguments.filter (!isOption ·)
  match name with
  | "cat" => withText operands (fun text => do write text; return 0) 1
  | "sort" => withText operands (fun text => writeLines ((linesOf text).mergeSort (· ≤ ·))) misuse
  | "head" => part List.take arguments
  | "tail" => part (fun n lines => lines.drop (lines.length - n)) arguments
  | "wc" => count arguments
  | "grep" => search arguments
  | "seq" => sequence arguments
  | "expr" => sum arguments
  | "basename" => lastName arguments
  | "dirname" =>
    match arguments with
    | [] => return 1
    | path :: _ => do
      write ((Path.parent? path).getD "." ++ "\n")
      return 0
  | "sleep" => return if !arguments.isEmpty && arguments.all isDuration then 0 else 1
  | "ls" =>
    let i ← get
    return if operands.all fun p => i.isFile p || i.isDirectory p then 0 else misuse
  | "mkdir" => makeDirectories arguments
  | "touch" => touch arguments
  | "rm" => remove arguments
  | "chmod" => changeMode arguments
  | _ =>
    match builtin? name with
    | some run => run arguments
    | none => return 0

end CommandVerbs.Shell
