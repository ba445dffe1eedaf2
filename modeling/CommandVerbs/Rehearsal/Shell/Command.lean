import CommandVerbs.Rehearsal.Shell.Word

/-!
# Commands of shell scripts

Commands and how they are read. A script is read line by line, so that what stands on a line is carried
out before the next one has to make sense.
-/

namespace CommandVerbs.Shell

/-- What a redirection does with its target. -/
inductive Redirection.Kind where
  /-- reads the file -/
  | input
  /-- writes the file anew -/
  | output
  /-- writes at the end of the file -/
  | append
  /-- does what the descriptor does -/
  | copy
  /-- reads the target itself -/
  | document
  deriving DecidableEq, Repr, Inhabited

/-- Where a command reads from or writes to. -/
structure Redirection where
  descriptor : Nat
  kind : Redirection.Kind
  target : Word
  deriving Repr, Inhabited

inductive Command where
  | nothing
  | simple (assignments : List (String × Word)) (words : List Word)
  | redirected (command : Command) (redirections : List Redirection)
  | sequence (first second : Command)
  | background (command : Command)
  /-- the second one if the first one succeeds -/
  | both (first second : Command)
  /-- the second one if the first one fails -/
  | either (first second : Command)
  | negated (command : Command)
  | pipe (first second : Command)
  | subshell (command : Command)
  | choose (test yes no : Command)
  /-- the body as long as the status of the test is as wanted -/
  | loop (wanted : Bool) (test body : Command)
  | forEach (name : String) (words : Option (List Word)) (body : Command)
  /-- the first branch with a pattern that matches -/
  | select (word : Word) (branches : List (List Word × Command))
  | define (name : String) (body : Command)
  deriving Inhabited

/-- Skips blanks and a comment. -/
def skipBlanks : List Char → List Char
  | ' ' :: rest | '\t' :: rest => skipBlanks rest
  | '\\' :: '\n' :: rest => skipBlanks rest
  | '#' :: rest => rest.dropWhile (· != '\n')
  | s => s

/-- Skips blanks, comments and line ends. -/
def skipLines : (fuel : Nat) → List Char → List Char
  | 0, s => s
  | fuel + 1, s =>
    match skipBlanks s with
    | '\n' :: rest => skipLines fuel rest
    | s => s

/-- The word without quotes and expansions at the start of a script, and what follows it. -/
def bareWord (s : List Char) : Option (String × List Char) :=
  let isMark := fun (c : Char) => ['\\', '\'', '"', '$', '\x60'].contains c
  let inWord := fun c => !endsWord c && !isMark c
  match s.dropWhile inWord with
  | [] => some (String.ofList s, [])
  | c :: rest => if endsWord c then some (String.ofList (s.takeWhile inWord), c :: rest) else none

/-- What follows a reserved word, if it stands at the start of a script. -/
def after? (reserved : String) (s : List Char) : Option (List Char) :=
  (bareWord (skipBlanks s)).bind fun (word, rest) => if word = reserved then some rest else none

/-- The reserved words before which a list of commands ends. -/
def closingWords : List String :=
  ["then", "do", "done", "fi", "elif", "else", "esac", "\x7d"]

/-- All reserved words. -/
def reservedWords : List String :=
  closingWords ++ ["!", "\x7b", "case", "for", "if", "in", "until", "while"]

/-- The commands whose errors end a script and whose assignments stay. -/
def specialCommands : List String :=
  [":", ".", "break", "continue", "eval", "exec", "exit", "export", "local", "readonly", "return",
    "set", "shift", "times", "trap", "unset"]

/-- Whether a list of commands ends here. -/
def endsList (s : List Char) : Bool :=
  match s with
  | [] | ')' :: _ | ';' :: ';' :: _ => true
  | s => (bareWord s).any fun (word, _) => closingWords.contains word

/-- Whether a text is a name. -/
def isName (s : List Char) : Bool :=
  s.head?.any startsName && s.all inName

/-- The mark of a redirection at the start of a script, if there is one: its descriptor, its kind and
the rest. -/
def redirectionMark? (s : List Char) : Option (Nat × Redirection.Kind × List Char) :=
  let digits := s.takeWhile Char.isDigit
  let number := digits.foldl (fun n c => n * 10 + (c.toNat - '0'.toNat)) 0
  let descriptor := fun standard => if digits.isEmpty then standard else number
  match s.dropWhile Char.isDigit with
  | '<' :: '&' :: rest => some (descriptor 0, .copy, rest)
  | '<' :: '>' :: rest => some (descriptor 0, .append, rest)
  | '<' :: '<' :: rest => some (descriptor 0, .document, rest)
  | '<' :: rest => some (descriptor 0, .input, rest)
  | '>' :: '&' :: rest => some (descriptor 1, .copy, rest)
  | '>' :: '>' :: rest => some (descriptor 1, .append, rest)
  | '>' :: '|' :: rest | '>' :: rest => some (descriptor 1, .output, rest)
  | _ => none

/-- The lines of a text up to the one that closes it, and what follows that one. -/
def closedBy (closing : List Char) (change : List Char → List Char) :
    (fuel : Nat) → List Char → List Char × List Char
  | 0, s => ([], s)
  | _, [] => ([], [])
  | fuel + 1, s =>
    let line := change (s.takeWhile (· != '\n'))
    let rest := (s.dropWhile (· != '\n')).drop 1
    if line = closing then ([], rest)
    else
      let (lines, rest) := closedBy closing change fuel rest
      (line ++ '\n' :: lines, rest)

/-- The text that follows the line of its redirection, given after the mark, and the rest without that
text. Where the closing line is named without quotes, the text has expansions. -/
def readDocument? (s : List Char) : Option (Word × List Char) := do
  let (change, s) := match s with
    | '-' :: rest => (List.dropWhile (· == '\t'), rest)
    | rest => (id, rest)
  let (delimiter, rest) ← readWord? (skipBlanks s)
  if delimiter.isEmpty then none
  let texts := delimiter.map fun
    | .quoted text | .bare text => text
    | _ => ""
  let closing := (String.join texts).toList
  let line := rest.takeWhile (· != '\n')
  let (lines, after) := closedBy closing change (rest.length + 1) ((rest.drop line.length).drop 1)
  let document ← match bareText? delimiter with
    | none => some [.quoted (String.ofList lines)]
    | some _ => wordOf? .document (String.ofList lines)
  return (document, line ++ '\n' :: after)

/-- The redirection at the start of a script, and the rest. -/
def readRedirection? (s : List Char) : Option (Redirection × List Char) := do
  let (descriptor, kind, rest) ← redirectionMark? s
  if kind = .document then
    let (target, rest) ← readDocument? rest
    return (⟨descriptor, kind, target⟩, rest)
  else
    let (target, rest) ← readWord? (skipBlanks rest)
    if target.isEmpty then none else return (⟨descriptor, kind, target⟩, rest)

/-- The redirections at the start of a script, and the rest. -/
def readRedirections : (fuel : Nat) → List Char → List Redirection × List Char
  | 0, s => ([], s)
  | fuel + 1, s =>
    match readRedirection? (skipBlanks s) with
    | none => ([], s)
    | some (redirection, rest) =>
      let (more, rest) := readRedirections fuel rest
      (redirection :: more, rest)

def Command.withRedirections (c : Command) (redirections : List Redirection) : Command :=
  if redirections.isEmpty then c else .redirected c redirections

/-- The words at the start of a script up to the end of the command, and the rest. -/
def readWords : (fuel : Nat) → List Char → Option (List Word × List Char)
  | 0, _ => none
  | fuel + 1, s =>
    match readWord? (skipBlanks s) with
    | none => none
    | some ([], rest) => some ([], rest)
    | some (word, rest) =>
      (readWords fuel rest).map fun (words, rest) => (word :: words, rest)

/-- The name and the value of a word that is an assignment. -/
def assignment? (word : Word) : Option (String × Word) :=
  let text := word.takeWhile fun | .bare _ => true | _ => false
  let chars := ((bareText? text).getD "").toList
  let name := chars.takeWhile (· != '=')
  if chars.contains '=' && isName name then
    some (String.ofList name, word.drop (name.length + 1))
  else none

/-- What a simple command consists of. -/
structure Simple where
  assignments : List (String × Word) := []
  words : List Word := []
  redirections : List Redirection := []
  deriving Inhabited

/-- All words that are expanded. -/
def Simple.expanded (c : Simple) : List Word :=
  c.words ++ c.assignments.map (·.2) ++ c.redirections.map (·.target)

/-- A simple command at the start of a script, and the rest. -/
def readSimple : (fuel : Nat) → Simple → List Char → Option (Simple × List Char)
  | 0, _, _ => none
  | fuel + 1, c, s =>
    let s := skipBlanks s
    match readRedirection? s with
    | some (redirection, rest) =>
      readSimple fuel { c with redirections := c.redirections ++ [redirection] } rest
    | none =>
      match readWord? s with
      | none => none
      | some ([], rest) => if rest.head? = some '<' ∨ rest.head? = some '>' then none else some (c, rest)
      | some (word, rest) =>
        match if c.words.isEmpty then assignment? word else none with
        | some assignment =>
          readSimple fuel { c with assignments := c.assignments ++ [assignment] } rest
        | none => readSimple fuel { c with words := c.words ++ [word] } rest

/-- The patterns of a branch, and what follows the parenthesis after them. -/
def readPatterns : (fuel : Nat) → List Char → Option (List Word × List Char)
  | 0, _ => none
  | fuel + 1, s =>
    match readWord? (skipBlanks s) with
    | none | some ([], _) => none
    | some (pattern, rest) =>
      match skipBlanks rest with
      | '|' :: rest => (readPatterns fuel rest).map fun (more, rest) => (pattern :: more, rest)
      | ')' :: rest => some ([pattern], rest)
      | _ => none

mutual

/-- The commands up to where a list ends, and the rest. -/
def readList : (fuel : Nat) → List Char → Option (Command × List Char)
  | 0, _ => none
  | fuel + 1, s =>
    let s := skipLines (s.length + 1) s
    if endsList s then some (.nothing, s)
    else match readAndOr fuel s with
      | none => none
      | some (command, rest) =>
        let followed := fun (command : Command) (rest : List Char) =>
          (readList fuel rest).map fun (more, rest) => (Command.sequence command more, rest)
        match skipBlanks rest with
        | ';' :: ';' :: rest => some (command, ';' :: ';' :: rest)
        | ';' :: rest | '\n' :: rest => followed command rest
        | '&' :: rest => followed (.background command) rest
        | rest => some (command, rest)

/-- A list of at least one command, and the rest. -/
def readBody : (fuel : Nat) → List Char → Option (Command × List Char)
  | 0, _ => none
  | fuel + 1, s =>
    let s := skipLines (s.length + 1) s
    if endsList s then none else readList fuel s

/-- Pipelines that depend on one another, and the rest. -/
def readAndOr : (fuel : Nat) → List Char → Option (Command × List Char)
  | 0, _ => none
  | fuel + 1, s => (readPipeline fuel s).bind fun (first, rest) => readAndOrFrom fuel first rest

/-- What depends on a command, and the rest. -/
def readAndOrFrom : (fuel : Nat) → Command → List Char → Option (Command × List Char)
  | 0, _, _ => none
  | fuel + 1, first, s =>
    let next := fun (rest : List Char) => readPipeline fuel (skipLines (rest.length + 1) rest)
    match skipBlanks s with
    | '&' :: '&' :: rest =>
      (next rest).bind fun (second, rest) => readAndOrFrom fuel (.both first second) rest
    | '|' :: '|' :: rest =>
      (next rest).bind fun (second, rest) => readAndOrFrom fuel (.either first second) rest
    | rest => some (first, rest)

/-- A pipeline, which may be negated, and the rest. -/
def readPipeline : (fuel : Nat) → List Char → Option (Command × List Char)
  | 0, _ => none
  | fuel + 1, s =>
    match after? "!" s with
    | some rest =>
      (readCommand fuel rest).bind fun (first, rest) =>
        (readPipes fuel first rest).map fun (command, rest) => (.negated command, rest)
    | none => (readCommand fuel s).bind fun (first, rest) => readPipes fuel first rest

/-- The commands that a command's output goes through, and the rest. -/
def readPipes : (fuel : Nat) → Command → List Char → Option (Command × List Char)
  | 0, _, _ => none
  | fuel + 1, first, s =>
    match skipBlanks s with
    | '|' :: '|' :: rest => some (first, '|' :: '|' :: rest)
    | '|' :: rest =>
      (readCommand fuel (skipLines (rest.length + 1) rest)).bind fun (second, rest) =>
        readPipes fuel (.pipe first second) rest
    | rest => some (first, rest)

/-- One command with its redirections, and the rest. -/
def readCommand : (fuel : Nat) → List Char → Option (Command × List Char)
  | 0, _ => none
  | fuel + 1, s =>
    let s := skipBlanks s
    let redirected := fun (r : Command × List Char) =>
      let (redirections, rest) := readRedirections (r.2.length + 1) r.2
      (r.1.withRedirections redirections, rest)
    match s with
    | '(' :: rest =>
      match readBody fuel rest with
      | some (body, ')' :: rest) => some (redirected (.subshell body, rest))
      | _ => none
    | s =>
      match (bareWord s).filter fun (word, _) => reservedWords.contains word with
      | some ("\x7b", rest) =>
        (readBody fuel rest).bind fun (body, rest) =>
          (after? "\x7d" rest).map fun rest => redirected (body, rest)
      | some ("if", rest) => (readChoice fuel rest).map redirected
      | some ("while", rest) => (readLoop fuel true rest).map redirected
      | some ("until", rest) => (readLoop fuel false rest).map redirected
      | some ("for", rest) => (readFor fuel rest).map redirected
      | some ("case", rest) => (readSelect fuel rest).map redirected
      | some _ => none
      | none =>
        match (bareWord s).map fun (name, rest) => (name, skipBlanks rest) with
        | some (name, '(' :: rest) =>
          match skipBlanks rest with
          | ')' :: rest =>
            if isName name.toList && !specialCommands.contains name then
              (readCommand fuel (skipLines (rest.length + 1) rest)).map fun (body, rest) =>
                (.define name body, rest)
            else none
          | _ => none
        | _ =>
          match readSimple (s.length + 1) {} s with
          | none => none
          | some (c, rest) =>
            let makesSense := fun (word : Word) => word.all fun
              | .output script _ =>
                (readList fuel script.toList).any fun (_, rest) => rest.isEmpty
              | _ => true
            if c.words.isEmpty && c.assignments.isEmpty && c.redirections.isEmpty then none
            else if !c.expanded.all makesSense then none
            else some ((Command.simple c.assignments c.words).withRedirections c.redirections, rest)

/-- The test and the branches of a choice, given after its first word, and the rest. -/
def readChoice : (fuel : Nat) → List Char → Option (Command × List Char)
  | 0, _ => none
  | fuel + 1, s => do
    let (test, rest) ← readBody fuel s
    let (yes, rest) ← readBody fuel (← after? "then" rest)
    match after? "elif" rest with
    | some rest =>
      let (no, rest) ← readChoice fuel rest
      return (.choose test yes no, rest)
    | none =>
      match after? "else" rest with
      | some rest =>
        let (no, rest) ← readBody fuel rest
        return (.choose test yes no, ← after? "fi" rest)
      | none => return (.choose test yes .nothing, ← after? "fi" rest)

/-- The test and the body of a loop, given after its first word, and the rest. -/
def readLoop : (fuel : Nat) → (wanted : Bool) → List Char → Option (Command × List Char)
  | 0, _, _ => none
  | fuel + 1, wanted, s => do
    let (test, rest) ← readBody fuel s
    let (body, rest) ← readBody fuel (← after? "do" rest)
    return (.loop wanted test body, ← after? "done" rest)

/-- A loop over words, given after its first word, and the rest. -/
def readFor : (fuel : Nat) → List Char → Option (Command × List Char)
  | 0, _ => none
  | fuel + 1, s => do
    let (name, rest) ← bareWord (skipBlanks s)
    if !isName name.toList then none
    let start := skipLines (rest.length + 1) rest
    let (words, rest) ← match after? "in" start with
      | some rest => (readWords (rest.length + 1) rest).map fun (words, rest) => (some words, rest)
      | none => some (none, rest)
    let rest := match skipBlanks rest with
      | ';' :: rest => rest
      | rest => rest
    let (body, rest) ← readBody fuel (← after? "do" (skipLines (rest.length + 1) rest))
    return (.forEach name words body, ← after? "done" rest)

/-- A selection among branches, given after its first word, and the rest. -/
def readSelect : (fuel : Nat) → List Char → Option (Command × List Char)
  | 0, _ => none
  | fuel + 1, s => do
    let (word, rest) ← readWord? (skipBlanks s)
    if word.isEmpty then none
    let rest ← after? "in" (skipLines (rest.length + 1) rest)
    let (branches, rest) ← readBranches fuel rest
    return (.select word branches, rest)

/-- The branches of a selection up to its end, and the rest. -/
def readBranches : (fuel : Nat) → List Char → Option (List (List Word × Command) × List Char)
  | 0, _ => none
  | fuel + 1, s => do
    let s := skipLines (s.length + 1) s
    match after? "esac" s with
    | some rest => return ([], rest)
    | none =>
      let s := match s with
        | '(' :: rest => rest
        | s => s
      let (patterns, rest) ← readPatterns (s.length + 1) s
      let (body, rest) ← readList fuel rest
      match skipBlanks rest with
      | ';' :: ';' :: rest =>
        let (more, rest) ← readBranches fuel rest
        return ((patterns, body) :: more, rest)
      | rest => return ([(patterns, body)], ← after? "esac" (skipLines (rest.length + 1) rest))

end

/-- What the next line of a script comes to. -/
inductive Line where
  /-- the script has ended -/
  | ended
  | senseless
  | command (command : Command) (rest : List Char)

/-- The commands of one line, and the rest. -/
def readLine : (fuel : Nat) → List Char → Option (Command × List Char)
  | 0, _ => none
  | fuel + 1, s =>
    match readAndOr (8 * s.length + 16) s with
    | none => none
    | some (command, rest) =>
      let followed := fun (command : Command) (rest : List Char) =>
        match skipBlanks rest with
        | [] => some (command, [])
        | '\n' :: rest => some (command, rest)
        | rest => (readLine fuel rest).map fun (more, rest) => (Command.sequence command more, rest)
      match skipBlanks rest with
      | [] => some (command, [])
      | '\n' :: rest => some (command, rest)
      | ';' :: ';' :: _ => none
      | ';' :: rest => followed command rest
      | '&' :: rest => followed (.background command) rest
      | _ => none

/-- The next line of a script that is not blank. -/
def nextLine (s : List Char) : Line :=
  match skipLines (s.length + 1) s with
  | [] => .ended
  | s =>
    match readLine (s.length + 1) s with
    | some (command, rest) => .command command rest
    | none => .senseless

end CommandVerbs.Shell
