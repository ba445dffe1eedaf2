/-!
# Words of shell scripts

A word is read as parts: text that stands for itself, and expansions whose values are known only when
the word is used. What is quoted is never split or matched as a pattern.
-/

namespace CommandVerbs.Shell

/-- A part of a word. -/
inductive Part where
  /-- text that stands for itself -/
  | quoted (text : String)
  /-- text in which pattern characters have their meaning -/
  | bare (text : String)
  /-- a parameter, by what would stand between braces -/
  | parameter (text : String) (inQuotes : Bool)
  | arithmetic (expression : String) (inQuotes : Bool)
  /-- the output of a script -/
  | output (script : String) (inQuotes : Bool)
  deriving DecidableEq, Repr, Inhabited

abbrev Word := List Part

/-- Whether a character ends a word. -/
def endsWord (c : Char) : Bool :=
  [' ', '\t', '\n', ';', '&', '|', '<', '>', '(', ')'].contains c

/-- Whether a name may start with a character. -/
def startsName (c : Char) : Bool :=
  c.isAlpha || c == '_'

/-- Whether a name may go on with a character. -/
def inName (c : Char) : Bool :=
  c.isAlphanum || c == '_'

/-- The parameters whose name is a single character. -/
def isSpecial (c : Char) : Bool :=
  c.isDigit || ['@', '*', '#', '?', '-', '$', '!'].contains c

/-- The text up to the closing mark of an opening one that has been read, and what follows the closing
mark. Marks within quotes or after a backslash do not count, and a brace opens only after a dollar
sign. -/
def enclosed? (opening closing : Char) (depth : Nat) (quote : Option Char) :
    List Char → Option (List Char × List Char)
  | [] => none
  | ['\\'] => none
  | '$' :: '\x7b' :: rest =>
    let deeper := if opening = '\x7b' ∧ quote = none then depth + 1 else depth
    (enclosed? opening closing deeper quote rest).map
      fun (inside, after) => ('$' :: '\x7b' :: inside, after)
  | '\\' :: c :: rest =>
    if quote = some '\'' then
      (enclosed? opening closing depth (if c = '\'' then none else quote) rest).map
        fun (inside, after) => ('\\' :: c :: inside, after)
    else
      (enclosed? opening closing depth quote rest).map
        fun (inside, after) => ('\\' :: c :: inside, after)
  | c :: rest =>
    let kept := fun (r : List Char × List Char) => (c :: r.1, r.2)
    match quote with
    | some mark =>
      (enclosed? opening closing depth (if c = mark then none else quote) rest).map kept
    | none =>
      if c = '\'' ∨ c = '"' then (enclosed? opening closing depth (some c) rest).map kept
      else if c = opening ∧ c ≠ '\x7b' then (enclosed? opening closing (depth + 1) none rest).map kept
      else if c = closing then
        if depth = 0 then some ([], rest)
        else (enclosed? opening closing (depth - 1) none rest).map kept
      else (enclosed? opening closing depth none rest).map kept

/-- The words after which a command may start. -/
def openingWords : List String :=
  ["!", "\x7b", "do", "elif", "else", "if", "then", "until", "while"]

/-- Where the search for the end of a script stands. -/
structure ScriptPlace where
  /-- how many parentheses are open -/
  depth : Nat := 0
  /-- the depths of the selections that are open -/
  selections : List Nat := []
  /-- the mark of what is quoted, or of a comment -/
  quote : Option Char := none
  /-- the next word starts a command -/
  starts : Bool := true
  /-- a word may start here -/
  fresh : Bool := true

namespace ScriptPlace

/-- Whether a parenthesis here closes the script. Those after the patterns of a selection do not. -/
def isLast (p : ScriptPlace) : Bool :=
  p.depth == 0 && p.quote.isNone && p.selections.head? != some 0

/-- The place after a character that ends words. -/
def afterMark (p : ScriptPlace) (c : Char) : ScriptPlace :=
  let depth := if c = '(' then p.depth + 1
    else if c = ')' ∧ p.selections.head? ≠ some p.depth then p.depth - 1
    else p.depth
  { p with depth, fresh := true, starts := p.starts || !(c == ' ' || c == '\t') }

/-- The place after the first character of a word. -/
def afterStart (p : ScriptPlace) (word : String) : ScriptPlace :=
  let selections :=
    if p.starts && word == "case" then p.depth :: p.selections
    else if p.starts && word == "esac" then p.selections.drop 1
    else p.selections
  { p with selections, fresh := false, starts := p.starts && openingWords.contains word }

/-- The place after a character, given with the text that it starts. -/
def next (p : ScriptPlace) (c : Char) (s : List Char) : ScriptPlace :=
  match p.quote with
  | some '#' => if c = '\n' then { p with quote := none, fresh := true, starts := true } else p
  | some mark => if c = mark then { p with quote := none } else p
  | none =>
    if endsWord c then p.afterMark c
    else if c = '#' ∧ p.fresh then { p with quote := some '#' }
    else
      let p := if p.fresh then p.afterStart (String.ofList (s.takeWhile (!endsWord ·))) else p
      if c = '\'' ∨ c = '"' then { p with quote := some c } else p

end ScriptPlace

/-- The script up to the parenthesis that closes it, and what follows. -/
def enclosedScript? (p : ScriptPlace) : List Char → Option (List Char × List Char)
  | [] => none
  | '\\' :: c :: rest =>
    let after := if p.quote = some '\'' && c == '\'' then { p with quote := none } else p
    (enclosedScript? { after with fresh := false } rest).map
      fun (inside, after) => ('\\' :: c :: inside, after)
  | c :: rest =>
    if c = ')' ∧ p.isLast then some ([], rest)
    else (enclosedScript? (p.next c (c :: rest)) rest).map fun (inside, after) => (c :: inside, after)

/-- The script between backquotes, of which the first has been read. -/
def backquoted? (inQuotes : Bool) : List Char → Option (List Char × List Char)
  | [] => none
  | '\x60' :: rest => some ([], rest)
  | '\\' :: c :: rest =>
    let kept := if ['\x60', '\\', '$'].contains c || (inQuotes && c == '"') then [c] else ['\\', c]
    (backquoted? inQuotes rest).map fun (inside, after) => (kept ++ inside, after)
  | c :: rest => (backquoted? inQuotes rest).map fun (inside, after) => (c :: inside, after)

/-- The expansion after a dollar sign, and the rest. A dollar sign that starts none stands for
itself. -/
def readExpansion? (inQuotes : Bool) : List Char → Option (Part × List Char)
  | '(' :: '(' :: rest =>
    match enclosed? '(' ')' 0 none rest with
    | some (expression, ')' :: after) =>
      some (.arithmetic (String.ofList expression) inQuotes, after)
    | _ => none
  | '(' :: rest =>
    (enclosedScript? {} rest).map fun (script, after) =>
      (.output (String.ofList script) inQuotes, after)
  | '\x7b' :: rest =>
    (enclosed? '\x7b' '\x7d' 0 none rest).map fun (inside, after) =>
      (.parameter (String.ofList inside) inQuotes, after)
  | c :: rest =>
    if startsName c then
      some (.parameter (String.ofList (c :: rest.takeWhile inName)) inQuotes, rest.dropWhile inName)
    else if isSpecial c then some (.parameter c.toString inQuotes, rest)
    else some (.quoted "$", c :: rest)
  | [] => some (.quoted "$", [])

/-- Where the reading of a word stands. -/
inductive WordPlace where
  | plain
  | double
  /-- in text that is quoted as a whole, where only a double quote has its meaning -/
  | within
  /-- in text that is quoted as a whole, where quotes have no meaning -/
  | document
  deriving DecidableEq, Repr

/-- The parts of a word and the rest of the script; with `whole`, everything belongs to the word.
Nothing comes of quotes that are not closed. -/
def readParts? (whole : Bool) : (fuel : Nat) → WordPlace → List Char → Option (Word × List Char)
  | 0, _, _ => none
  | fuel + 1, place, s =>
    let kept := fun (part : Part) (place : WordPlace) (rest : List Char) =>
      (readParts? whole fuel place rest).map fun (parts, after) => (part :: parts, after)
    match place, s with
    | .double, [] => none
    | _, [] => some ([], [])
    | _, '\\' :: '\n' :: rest => readParts? whole fuel place rest
    | .plain, '\\' :: c :: rest => kept (.quoted c.toString) .plain rest
    | place, '\\' :: c :: rest =>
      if ['$', '\x60', '\\'].contains c || (c == '"' && place != .document) ||
          (c == '\x7d' && place == .within) then
        kept (.quoted c.toString) place rest
      else kept (.quoted "\\") place (c :: rest)
    | .double, '"' :: rest => readParts? whole fuel .plain rest
    | .within, '"' :: rest => readParts? whole fuel .within rest
    | .plain, '"' :: rest => kept (.quoted "") .double rest
    | .plain, '\'' :: rest =>
      match rest.dropWhile (· != '\'') with
      | _ :: after => kept (.quoted (String.ofList (rest.takeWhile (· != '\'')))) .plain after
      | [] => none
    | place, '$' :: rest =>
      (readExpansion? (place != .plain) rest).bind fun (part, rest) => kept part place rest
    | place, '\x60' :: rest =>
      (backquoted? (place == .double) rest).bind fun (script, rest) =>
        kept (.output (String.ofList script) (place != .plain)) place rest
    | .plain, c :: rest =>
      if endsWord c && !whole then some ([], s) else kept (.bare c.toString) .plain rest
    | place, c :: rest => kept (.quoted c.toString) place rest

/-- The word at the start of a script, and the rest. -/
def readWord? (s : List Char) : Option (Word × List Char) :=
  readParts? false (s.length + 1) .plain s

/-- A text as one word, with its quotes and expansions. -/
def wordOf? (place : WordPlace) (text : String) : Option Word :=
  (readParts? true (text.length + 1) place text.toList).map (·.1)

/-- The text of a word that has no quotes and no expansions. -/
def bareText? : Word → Option String
  | [] => some ""
  | .bare text :: rest => (bareText? rest).map (text ++ ·)
  | _ => none

end CommandVerbs.Shell
