import CommandVerbs.Rehearsal.Shell.Condition
import CommandVerbs.Rehearsal.Shell.Signal

/-!
# Commands of the interpreter itself

The built-in commands that carry out no other command. What is wrong with the special ones ends the
script; what is wrong with the others is only their status.
-/

namespace CommandVerbs.Shell

/-- What a format comes to. -/
structure Formatted where
  text : List Char := []
  /-- the arguments are of the right kind -/
  fits : Bool := true
  /-- the arguments that are left -/
  rest : List String

/-- Puts text before what the rest of a format comes to. -/
def Formatted.after (text : String) (fits : Bool) (f : Formatted) : Formatted :=
  { f with text := text.toList ++ f.text, fits := fits && f.fits }

/-- The text of a format with arguments put in. -/
def formatted : List Char → List String → Formatted
  | [], arguments => { rest := arguments }
  | '%' :: '%' :: format, arguments => (formatted format arguments).after "%" true
  | '%' :: kind :: format, arguments =>
    let argument := arguments.headD ""
    let rest := formatted format arguments.tail
    if kind = 'd' ∨ kind = 'i' then
      match if arguments.isEmpty then some 0 else Condition.integer? argument with
      | some n => rest.after (toString n) true
      | none => rest.after "0" false
    else if kind = 'c' then rest.after (String.ofList (argument.toList.take 1)) true
    else rest.after argument true
  | '\\' :: c :: format, arguments =>
    let escaped := match c with
      | 'n' => "\n"
      | 't' => "\t"
      | '\\' => "\\"
      | c => String.ofList ['\\', c]
    (formatted format arguments).after escaped true
  | c :: format, arguments => (formatted format arguments).after c.toString true

/-- The text of a format that is used again as long as arguments are left. -/
def formattedAll (format : List Char) : (fuel : Nat) → List String → Formatted
  | 0, arguments => { rest := arguments }
  | fuel + 1, arguments =>
    let f := formatted format arguments
    if f.rest.isEmpty || f.rest.length = arguments.length then f
    else (formattedAll format fuel f.rest).after (String.ofList f.text) f.fits

def echo : List String → Run Nat
  | "-n" :: words => do write (" ".intercalate words); return 0
  | words => do write (" ".intercalate words ++ "\n"); return 0

def printf : List String → Run Nat
  | [] => return misuse
  | format :: arguments => do
    let f := formattedAll format.toList (arguments.length + 1) arguments
    write (String.ofList f.text)
    return if f.fits then 0 else 1

def test (words : List String) : Run Nat := do
  match Condition.holds? (← get) words with
  | some true => return 0
  | some false => return 1
  | none => return misuse

/-- The condition between brackets. -/
def bracket (words : List String) : Run Nat :=
  match words.getLast? with
  | some "]" => test words.dropLast
  | _ => return misuse

/-- The status that an argument names, else the given one. -/
def statusOf (standard : Nat) : List String → Run Nat
  | [] => return standard
  | text :: _ =>
    match Signal.natural? text with
    | some n => return n
    | none => refuse

/-- The number of loops that an argument names. -/
def levelsOf : List String → Run Nat
  | [] => return 1
  | text :: _ =>
    match (Signal.natural? text).filter (0 < ·) with
    | some n => return n
    | none => refuse

/-- Ends a loop or a turn of it; outside of loops nothing happens. -/
def departLoop (departure : Nat → Departure) (arguments : List String) : Run Nat := do
  let levels ← levelsOf arguments
  let loops := (← get).loops
  if loops = 0 then return 0 else throw (departure (Nat.min levels loops))

def shift (arguments : List String) : Run Nat := do
  let n ← match arguments with
    | [] => pure 1
    | text :: _ => statusOf 1 [text]
  if (← get).arguments.length < n then refuse
  else
    modify fun i => { i with arguments := i.arguments.drop n }
    return 0

/-- The letters of the options that may be set. -/
def optionLetters : List Char :=
  ['a', 'b', 'e', 'f', 'm', 'n', 'u', 'v', 'x', 'C', 'E', 'I', 'V', 'i', 's', 'p']

/-- The names of the options that have no effect here. -/
def idleOptions : List String :=
  ["allexport", "debug", "emacs", "ignoreeof", "interactive", "monitor", "noclobber", "noglob", "nolog",
    "notify", "privileged", "stdin", "verbose", "vi", "xtrace"]

/-- Sets or clears an option by its letter. -/
def setOption (on : Bool) (c : Char) : Run Unit := do
  if !optionLetters.contains c then refuse
  if c = 'e' then modify fun i => { i with stopsOnFailure := on }
  if c = 'u' then modify fun i => { i with needsValues := on }
  if c = 'n' then modify fun i => { i with readsOnly := on }

/-- Sets or clears an option by its name. -/
def setNamedOption (on : Bool) (name : String) : Run Unit :=
  match name with
  | "errexit" => setOption on 'e'
  | "nounset" => setOption on 'u'
  | "noexec" => setOption on 'n'
  | name => if idleOptions.contains name then return () else refuse

/-- Sets or clears options by their letters. A letter may take a name from the words that follow; those
that are left are the result. -/
def setOptions (on : Bool) : List Char → List String → Run (List String)
  | [], words => return words
  | 'o' :: letters, name :: words => do
    setNamedOption on name
    setOptions on letters words
  | 'o' :: letters, [] => setOptions on letters []
  | c :: letters, words => do
    setOption on c
    setOptions on letters words

/-- Sets the arguments. -/
def setArguments (arguments : List String) : Run Nat := do
  modify fun i => { i with arguments }
  return 0

/-- Sets options, then the arguments if any are left. -/
def setAll : (fuel : Nat) → List String → Run Nat
  | 0, _ | _, [] => return 0
  | fuel + 1, word :: rest =>
    match word.toList with
    | ['-', '-'] => setArguments rest
    | ['-'] => if rest.isEmpty then return 0 else setArguments rest
    | '-' :: letters => do setAll fuel (← setOptions true letters rest)
    | '+' :: letters => do setAll fuel (← setOptions false letters rest)
    | _ => setArguments (word :: rest)

/-- A word as a name and a value. -/
def nameAndValue (word : String) : String × Option String :=
  match word.toList.dropWhile (· != '=') with
  | _ :: value => (String.ofList (word.toList.takeWhile (· != '=')), some (String.ofList value))
  | [] => (word, none)

/-- Binds the names in words and marks them. -/
def mark (change : String → Interpreter → Interpreter) : List String → Run Nat
  | [] => return 0
  | word :: rest => do
    let (name, value) := nameAndValue word
    if name.startsWith "-" then mark change rest
    else if !isName name.toList then refuse
    else
      if let some value := value then assign name value
      modify (change name)
      mark change rest

def unset : List String → Run Nat
  | [] => return 0
  | "-f" :: names => do
    modify fun i => { i with functions := i.functions.filter fun f => !names.contains f.1 }
    return 0
  | "-v" :: names | names => do
    if names.any (← get).constants.contains then refuse
    modify fun i => { i with bindings := i.bindings.filter fun v => !names.contains v.1 }
    return 0

/-- Hides variables until the function ends. -/
def hide : List String → Run Nat
  | [] => return 0
  | word :: rest => do
    if !(← get).inFunction then refuse
    let (name, value) := nameAndValue word
    modify fun i => { i with hidden := (name, i.lookup? name) :: i.hidden }
    if let some value := value then assign name value
    hide rest

def trap : List String → Run Nat
  | [] => return 0
  | [name] => change none [name]
  | action :: names =>
    if action = "-" || (Signal.natural? action).isSome then
      change none (if action = "-" then names else action :: names)
    else change (some action) names
where
  /-- Sets or clears the traps of some signals. -/
  change (action : Option String) : List String → Run Nat
    | [] => return 0
    | name :: rest =>
      match Signal.trapName? name with
      | none => return 1
      | some name => do
        modify fun i =>
          { i with traps := (action.map (name, ·)).toList ++ i.traps.filter (·.1 != name) }
        change action rest

/-- Reads a line into variables, the last of which takes what is left. -/
def read (arguments : List String) : Run Nat := do
  let i ← get
  let line := i.input.takeWhile (· != '\n')
  let rest := i.input.drop line.length
  set { i with input := rest.drop 1 }
  let names := arguments.filter (!·.startsWith "-")
  if names.isEmpty || !names.all (isName ·.toList) then return misuse
  bind names (line.dropWhile Char.isWhitespace)
  return if rest.isEmpty then 1 else 0
where
  /-- Binds names to the words of a line. -/
  bind : List String → List Char → Run Unit
    | [], _ => return ()
    | [name], line => assign name (String.ofList (line.reverse.dropWhile Char.isWhitespace).reverse)
    | name :: names, line => do
      assign name (String.ofList (line.takeWhile (!·.isWhitespace)))
      bind names ((line.dropWhile (!·.isWhitespace)).dropWhile Char.isWhitespace)

/-- Waits for background commands, which have all ended. -/
def wait : List String → Run Nat
  | [] => return 0
  | process :: _ => do
    match Signal.natural? process, (← get).job with
    | none, _ => return misuse
    | some n, some status => return if n = Interpreter.jobProcess then status else unknownCommand
    | some _, none => return unknownCommand

/-- Changes to a directory. -/
def changeDirectory : List String → Run Nat
  | [] | ["-"] => return 0
  | path :: _ => do
    let i ← get
    if i.files.isDirectory path then
      let place := (i.files.locate path).toOption.getD i.files.workingDirectory
      set { i with files := { i.files with workingDirectory := place } }
      return 0
    else return if i.isDirectory path then 0 else misuse

/-- A built-in command that carries out no other command. -/
def builtin? : String → Option (List String → Run Nat)
  | "true" | ":" | "times" | "hash" | "jobs" | "ulimit" | "pwd" | "alias" => some fun _ => return 0
  | "false" | "getopts" => some fun _ => return 1
  | "umask" => some fun arguments =>
      return if arguments.all fun a => a.toList.all fun c => '0' ≤ c && c ≤ '7' then 0 else misuse
  | "echo" => some echo
  | "printf" => some printf
  | "test" => some test
  | "[" => some bracket
  | "exit" => some fun arguments => do throw (.exit (← statusOf (← get).status arguments))
  | "return" => some fun arguments => do
      throw (.leaveFunction (← statusOf (← get).status arguments))
  | "break" => some (departLoop .leaveLoop)
  | "continue" => some (departLoop .nextTurn)
  | "shift" => some shift
  | "set" => some fun words => setAll (words.length + 1) words
  | "export" => some (mark fun name i => { i with exported := name :: i.exported })
  | "readonly" => some (mark fun name i => { i with constants := name :: i.constants })
  | "unset" => some unset
  | "local" => some hide
  | "trap" => some trap
  | "read" => some read
  | "wait" => some wait
  | "cd" | "chdir" => some changeDirectory
  | "unalias" | "fg" | "bg" => some fun _ => return misuse
  | _ => none

/-- The built-in commands that carry out others. -/
def carryingCommands : List String :=
  [".", "command", "eval", "exec", "kill", "type"]

end CommandVerbs.Shell
