import CommandVerbs.Files.Tree
import CommandVerbs.KeyMap
import CommandVerbs.Text.Alphanumeric
import CommandVerbs.Text.Blank
import CommandVerbs.Text.Split

/-!
# Environment files

A file of `NAME=value` lines completes the environment: a variable that is set already stays as it is.
A value may be quoted, a quoted value may go on over several lines, and `$NAME` or `${NAME}` stands
for a variable that is set at that point. Reading ends at the first line that makes no sense or is not
text; what stands before it counts.
-/

namespace CommandVerbs.EnvironmentFile

/-- Where a line may end: outside of quotes and not after a backslash. -/
inductive LinePlace where
  | outside
  /-- after a blank outside of quotes, where a comment may start -/
  | blank
  | escape
  | single
  | singleEscape
  | double
  | doubleEscape
  deriving DecidableEq, Repr

/-- The place after a character that stands outside of quotes. -/
def LinePlace.afterPlain (c : Char) : LinePlace :=
  match c with
  | '\\' => .escape
  | '"' => .double
  | '\'' => .single
  | _ => .outside

/-- The place after a further character. -/
def LinePlace.after (c : Char) : LinePlace → LinePlace
  | .blank => afterPlain c
  | .outside => if Text.isBlank c && c != '\n' && c != '\r' then .blank else afterPlain c
  | .escape => .outside
  | .single => if c = '\\' then .singleEscape else if c = '\'' then .outside else .single
  | .singleEscape => .single
  | .double => if c = '\\' then .doubleEscape else if c = '"' then .outside else .double
  | .doubleEscape => .double

/-- Follows a line up to its end or to a comment. Returns the characters before the comment if there
is one, and the place at the end of the line. -/
def followLine : LinePlace → List Char → Option (List Char) × LinePlace
  | place, [] => (none, place)
  | place, c :: rest =>
    if place = .blank ∧ c = '#' then (some [], .outside)
    else
      let (comment, last) := followLine (place.after c) rest
      (comment.map (c :: ·), last)

/-- Joins lines, given with their line feeds, as long as quotes are open. Returns nothing in the end
if the last line is not complete. -/
def joinLines (before : List Char) (place : LinePlace) : List (List Char) → List (Option (List Char))
  | [] => if place = .outside then [] else [none]
  | line :: rest =>
    let whole := before ++ line
    if (Text.dropBlanks whole).head? = some '#' then joinLines [] .outside rest
    else match followLine place line with
      | (some kept, _) => some (before ++ kept) :: joinLines [] .outside rest
      | (none, .outside) => some whole :: joinLines [] .outside rest
      | (none, place) => joinLines whole place rest

/-- The lines of some text or bytes, each with its `feed`, which the last one may lack. -/
def rawLines {α : Type} [DecidableEq α] (feed : α) : List α → List (List α)
  | [] => []
  | a :: rest =>
    if a = feed then [a] :: rawLines feed rest
    else match rawLines feed rest with
      | [] => [[a]]
      | line :: lines => (a :: line) :: lines

/-- The lines of a file up to the first that is not text. -/
def readableLines : Content → List (List Char)
  | .text value => rawLines '\n' value.toList
  | .bytes value => (((rawLines 10 value).map Text.Utf8.decode).takeWhile Option.isSome).filterMap id

/-- The lines without a byte order mark before them, which says nothing. -/
def dropMark : List (List Char) → List (List Char)
  | ('\uFEFF' :: line) :: lines => line :: lines
  | lines => lines

/-- Where the reading of a value stands. -/
inductive ValuePlace where
  | text
  | escape
  /-- within single quotes -/
  | literal
  /-- in the name of a variable -/
  | name (read : List Char)
  /-- in the name of a variable between braces -/
  | braced (read : List Char)
  /-- after the value, where a comment may stand -/
  | ended
  deriving DecidableEq, Repr

/-- The value of a variable, empty if it is not set. -/
def valueOf (environment : KeyMap String) (name : List Char) : List Char :=
  ((environment.get? (String.ofList name)).getD "").toList

/-- The value in the rest of a line; `quoted` says that a double quote is open. -/
def valueFrom (environment : KeyMap String) :
    ValuePlace → (quoted : Bool) → List Char → Option (List Char)
  | .text, quoted, [] | .escape, quoted, [] => if quoted then none else some []
  | .literal, _, [] | .braced _, _, [] => none
  | .name read, quoted, [] => if quoted then none else some (valueOf environment read)
  | .ended, _, [] => some []
  | .ended, quoted, c :: rest =>
    if c = ' ' ∨ c = '\t' then valueFrom environment .ended quoted rest
    else if c = '#' then some []
    else none
  | .escape, quoted, c :: rest =>
    if ['\\', '\'', '"', '$', ' '].contains c then
      (valueFrom environment .text quoted rest).map (c :: ·)
    else if c = 'n' then (valueFrom environment .text quoted rest).map ('\n' :: ·)
    else none
  | .literal, quoted, c :: rest =>
    if c = '\'' then valueFrom environment .text quoted rest
    else (valueFrom environment .literal quoted rest).map (c :: ·)
  | .name read, quoted, c :: rest =>
    if Text.isAlphanumeric c then valueFrom environment (.name (read ++ [c])) quoted rest
    else if c = '\x7b' ∧ read = [] then valueFrom environment (.braced []) quoted rest
    else if c = '$' then
      (valueFrom environment (.name []) quoted rest).map (valueOf environment read ++ ·)
    else (valueFrom environment .text quoted rest).map (valueOf environment read ++ c :: ·)
  | .braced read, quoted, c :: rest =>
    if c = '\x7d' then
      (valueFrom environment .text quoted rest).map (valueOf environment read ++ ·)
    else valueFrom environment (.braced (read ++ [c])) quoted rest
  | .text, quoted, c :: rest =>
    if c = '$' then valueFrom environment (.name []) quoted rest
    else if c = '\\' then valueFrom environment .escape quoted rest
    else if c = '"' then valueFrom environment .text (!quoted) rest
    else if quoted then (valueFrom environment .text quoted rest).map (c :: ·)
    else if c = '\'' then valueFrom environment .literal quoted rest
    else if c = ' ' ∨ c = '\t' then valueFrom environment .ended quoted rest
    else (valueFrom environment .text quoted rest).map (c :: ·)

/-- The name at the start of a line, and what follows it. -/
def nameOf? (line : List Char) : Option (List Char × List Char) :=
  match line with
  | c :: _ =>
    if c.isAlpha || c == '_' then
      let inName := fun (c : Char) => c.isAlphanum || c == '_' || c == '.'
      some (line.takeWhile inName, line.dropWhile inName)
    else none
  | [] => none

/-- The name and the text of the value on a line that starts with a name. The word `export` may stand
before the name. -/
def assignment? (line : List Char) : Option (List Char × List Char) := do
  let (name, rest) ← nameOf? line
  match Text.dropBlanks rest with
  | '=' :: value => return (name, Text.dropBlanks value)
  | rest =>
    if name = "export".toList then
      let (name, rest) ← nameOf? rest
      match Text.dropBlanks rest with
      | '=' :: value => return (name, Text.dropBlanks value)
      | _ => none
    else none

/-- What a line says. -/
inductive Line where
  | blank
  | set (name value : String)
  | senseless

/-- What a line says when the given variables are set. -/
def lineOf (environment : KeyMap String) (line : List Char) : Line :=
  match Text.trimChars line with
  | [] | '#' :: _ => .blank
  | trimmed =>
    match assignment? trimmed with
    | none => .senseless
    | some (name, [] ) | some (name, '#' :: _) => .set (String.ofList name) ""
    | some (name, text) =>
      match valueFrom environment .text false text with
      | none => .senseless
      | some value => .set (String.ofList name) (String.ofList value)

/-- Completes the environment with lines up to the first that makes no sense. -/
def loadLines (environment : KeyMap String) : List (Option (List Char)) → KeyMap String
  | [] | none :: _ => environment
  | some line :: rest =>
    match lineOf environment line with
    | .senseless => environment
    | .blank => loadLines environment rest
    | .set name value =>
      loadLines
        (if environment.contains name then environment else environment.insert name value) rest

/-- Completes the environment with a file. -/
def load (environment : KeyMap String) (content : Content) : KeyMap String :=
  loadLines environment (joinLines [] .outside (dropMark (readableLines content)))

/-- The name of environment files. -/
def fileName : String := ".env"

/-- The file of the innermost directory that has one, on the way to the root. -/
def find? (files : FileTree) : (backwards : Location) → Option Content
  | [] => fileIn []
  | name :: rest => (fileIn (name :: rest).reverse).or (find? files rest)
where
  /-- The file in a directory. -/
  fileIn (directory : Location) : Option Content :=
    match files.node? (directory ++ [fileName]) with
    | some (.file content _) => some content
    | _ => none

/-- Completes the environment with the file that belongs to the working directory. -/
def loadFrom (environment : KeyMap String) (files : FileTree) : KeyMap String :=
  match find? files files.workingDirectory.reverse with
  | some content => load environment content
  | none => environment

end CommandVerbs.EnvironmentFile
