import CommandVerbs.Config.Key
import CommandVerbs.Fault
import CommandVerbs.Files.Tree
import CommandVerbs.KeyMap
import CommandVerbs.Text.Blank
import CommandVerbs.Text.Split

/-!
# The configuration file

One `key=value` pair a line, in key order. When the file is read, blank lines, comments and lines
without a key are passed over, blanks around keys and values are dropped, and the last pair of a key
counts. Every change writes the whole file anew.
-/

namespace CommandVerbs.Config

/-- The pair on a line, if it holds one. -/
def pairOfLine? (line : List Char) : Option (List Char × List Char) :=
  match Text.trimChars line with
  | [] | '#' :: _ => none
  | trimmed =>
    match Text.cut '=' trimmed with
    | none => none
    | some (key, value) =>
      match Text.trimChars key with
      | [] => none
      | key => some (key, Text.trimChars value)

/-- The pairs that a text holds. -/
def readPairs (text : String) : KeyMap String :=
  .ofList ((Text.lineChars text.toList).filterMap fun line =>
    (pairOfLine? line).map fun (key, value) => (String.ofList key, String.ofList value))

/-- The lines of a text that hold no pair although they are neither blank nor comments. -/
def skippedLines (text : String) : List String :=
  (Text.lineChars text.toList).filterMap fun line =>
    let trimmed := Text.trimChars line
    if (pairOfLine? line).isSome || trimmed.isEmpty || trimmed.head? == some '#' then none
    else some (String.ofList trimmed)

/-- The line of a pair. -/
def lineOf (pair : String × String) : String :=
  pair.1 ++ "=" ++ pair.2 ++ "\n"

/-- The text that holds the pairs. -/
def writePairs (pairs : KeyMap String) : String :=
  String.join (pairs.toList.map lineOf)

/-- The pairs of a configuration file, held in memory beside it. -/
structure FileStore where
  path : String
  pairs : KeyMap String
  deriving DecidableEq, Inhabited

namespace FileStore

/-- Reads the file at a path; where there is none, there are no pairs. -/
def load (files : FileTree) (path : String) : Except ConfigFault FileStore :=
  if files.contains path then
    match files.read path with
    | .ok text => .ok ⟨path, readPairs text⟩
    | .error fault => .error (.storage s!"{path}: {fault.message}")
  else .ok ⟨path, .empty⟩

/-- The directory that has to be there before the file is written. -/
def directory? (store : FileStore) : Option String :=
  (Path.parent? store.path).filter (· != "")

/-- Makes the directory of the file. -/
def makeRoom (store : FileStore) (files : FileTree) : FileTree × Except ConfigFault Unit :=
  match store.directory? with
  | none => (files, .ok ())
  | some directory =>
    let (files, made) := files.makeDirectories directory
    (files, made.mapError fun fault => .storage s!"{directory}: {fault.message}")

/-- Writes the pairs to the file, in a directory that is made if need be. -/
def save (store : FileStore) (files : FileTree) : FileTree × Except ConfigFault Unit :=
  match store.makeRoom files with
  | (files, .error fault) => (files, .error fault)
  | (files, .ok ()) =>
    match files.write store.path (.text (writePairs store.pairs)) with
    | .ok files => (files, .ok ())
    | .error fault => (files, .error (.storage s!"{store.path}: {fault.message}"))

/-- Why a trimmed key and a value cannot stand on a line, if they cannot. -/
def refusal? (key : List Char) (value : List Char) : Option String :=
  let name := String.ofList key
  if key.isEmpty || key.contains '=' || key.contains '\n' then
    some s!"invalid key {inQuotes name}"
  else if value.contains '\n' then some s!"value for {inQuotes name} spans lines"
  else none

/-- Binds a trimmed key and saves. A pair that cannot be saved stays in memory. -/
def set (store : FileStore) (files : FileTree) (key value : String) :
    FileStore × FileTree × Except ConfigFault Unit :=
  let trimmed := Text.trimChars key.toList
  match refusal? trimmed value.toList with
  | some reason => (store, files, .error (.malformed reason))
  | none =>
    let store := { store with pairs := store.pairs.insert (String.ofList trimmed) value }
    (store, store.save files)

/-- Removes a key and saves; says whether there was one. -/
def remove (store : FileStore) (files : FileTree) (key : String) :
    FileStore × FileTree × Except ConfigFault Bool :=
  if store.pairs.contains key then
    let store := { store with pairs := store.pairs.erase key }
    let (files, saved) := store.save files
    (store, files, saved.map fun () => true)
  else (store, files, .ok false)

end FileStore

end CommandVerbs.Config
