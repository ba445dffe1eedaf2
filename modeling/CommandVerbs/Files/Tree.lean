import CommandVerbs.Files.Path
import CommandVerbs.Text.Utf8

/-!
# File trees

Directories and files under a root, with the working directory from which relative paths start. A
path is followed name by name: every name but the last has to lead to a directory. An operation that
is refused leaves the tree as it was.
-/

namespace CommandVerbs

/-- Why the file system refuses an operation. -/
inductive FileFault where
  | missing
  | present
  | notDirectory
  | isDirectory
  | longName
  | denied
  | notPermitted
  | zeroInName
  | notText
  deriving DecidableEq, Repr, Inhabited

def FileFault.message : FileFault → String
  | .missing => "No such file or directory (os error 2)"
  | .denied => "Permission denied (os error 13)"
  | .notPermitted => "Operation not permitted (os error 1)"
  | .present => "File exists (os error 17)"
  | .notDirectory => "Not a directory (os error 20)"
  | .isDirectory => "Is a directory (os error 21)"
  | .longName => "File name too long (os error 36)"
  | .zeroInName => "file name contained an unexpected NUL byte"
  | .notText => "stream did not contain valid UTF-8"

/-- What a file holds: a text, or bytes that are not the UTF-8 form of any text. -/
inductive Content where
  | text (value : String)
  | bytes (value : List UInt8)
  deriving DecidableEq, Repr, Inhabited

/-- The content that consists of the given bytes. -/
def Content.ofBytes (bytes : List UInt8) : Content :=
  match Text.Utf8.decode bytes with
  | some chars => .text (String.ofList chars)
  | none => .bytes bytes

/-- The content as a text, with U+FFFD for what is not one. -/
def Content.shown : Content → String
  | .text value => value
  | .bytes value => String.ofList (Text.Utf8.decodeLossy value)

inductive Node where
  | directory
  | file (content : Content) (mode : Nat)
  deriving DecidableEq, Repr, Inhabited

/-- The names that lead from the root to a place. -/
abbrev Location := List String

structure FileTree where
  workingDirectory : Location
  nodes : List (Location × Node)
  /-- where files can be written but their modes cannot be set: they are another user's, or the file
  system there has no modes -/
  fixedModes : List Location := []
  deriving DecidableEq, Repr, Inhabited

namespace FileTree

/-- The mode of a new file. -/
def plainMode : Nat := 0o644

/-- The mode of a program. -/
def programMode : Nat := 0o755

/-- What is at a place. The root and the way to the working directory are directories. -/
def node? (t : FileTree) (place : Location) : Option Node :=
  if place.isPrefixOf t.workingDirectory then some .directory
  else (t.nodes.find? (·.1 == place)).map (·.2)

/-- Puts a node in place of what is there. -/
def put (t : FileTree) (place : Location) (node : Node) : FileTree :=
  if t.nodes.any (·.1 == place) then
    { t with nodes := t.nodes.map fun entry => if entry.1 == place then (place, node) else entry }
  else { t with nodes := t.nodes ++ [(place, node)] }

/-- A name is at most this many bytes long. -/
def nameLimit : Nat := 255

/-- A path is shorter than this many bytes. -/
def pathLimit : Nat := 4096

/-- Follows names from a place, which has to be a directory as long as names are left. -/
def follow (t : FileTree) (place : Location) : List String → Except FileFault Location
  | [] => .ok place
  | name :: rest =>
    match t.node? place with
    | none => .error .missing
    | some (.file _ _) => .error .notDirectory
    | some .directory =>
      if name = "." then follow t place rest
      else if name = ".." then follow t place.dropLast rest
      else if nameLimit < name.utf8ByteSize then .error .longName
      else follow t (place ++ [name]) rest

/-- The place that a path leads to, where there may be nothing. -/
def locate (t : FileTree) (path : String) : Except FileFault Location :=
  if path.isEmpty then .error .missing
  else if path.toList.contains '\x00' then .error .zeroInName
  else if pathLimit ≤ path.utf8ByteSize then .error .longName
  else t.follow (if Path.isAbsolute path then [] else t.workingDirectory) (Path.names path)

/-- What a path leads to, if there is anything. -/
def lookup (t : FileTree) (path : String) : Except FileFault Node :=
  match t.locate path with
  | .error fault => .error fault
  | .ok place =>
    match t.node? place with
    | none => .error .missing
    | some (.file content mode) =>
      if Path.endsWithSlash path then .error .notDirectory else .ok (.file content mode)
    | some .directory => .ok .directory

def contains (t : FileTree) (path : String) : Bool :=
  match t.lookup path with
  | .ok _ => true
  | .error _ => false

def isDirectory (t : FileTree) (path : String) : Bool :=
  match t.lookup path with
  | .ok .directory => true
  | _ => false

/-- The text of a file. -/
def read (t : FileTree) (path : String) : Except FileFault String :=
  match t.lookup path with
  | .error fault => .error fault
  | .ok .directory => .error .isDirectory
  | .ok (.file (.bytes _) _) => .error .notText
  | .ok (.file (.text value) _) => .ok value

/-- Writes a file, which is made if there is none. A path that ends with a slash names no file that
could be made, whatever is there. -/
def write (t : FileTree) (path : String) (content : Content) : Except FileFault FileTree :=
  match t.locate path with
  | .error fault => .error fault
  | .ok place =>
    if Path.endsWithSlash path then .error .isDirectory
    else match t.node? place with
      | some .directory => .error .isDirectory
      | some (.file _ mode) => .ok (t.put place (.file content mode))
      | none =>
        match t.node? place.dropLast with
        | some .directory => .ok (t.put place (.file content plainMode))
        | some (.file _ _) => .error .notDirectory
        | none => .error .missing

/-- Makes one directory. -/
def makeDirectory (t : FileTree) (path : String) : Except FileFault FileTree :=
  match t.locate path with
  | .error fault => .error fault
  | .ok place =>
    match t.node? place with
    | some _ => .error .present
    | none =>
      match t.node? place.dropLast with
      | some .directory => .ok (t.put place .directory)
      | some (.file _ _) => .error .notDirectory
      | none => .error .missing

/-- Looks from the longest path to the shortest for one that can be made or is a directory. Returns
the paths that are still missing, the shortest first. -/
def makeLongest (t : FileTree) (missing : List String) :
    List String → Except FileFault (FileTree × List String)
  | [] => .ok (t, missing)
  | path :: shorter =>
    match t.makeDirectory path with
    | .ok made => .ok (made, missing)
    | .error .missing => makeLongest t (path :: missing) shorter
    | .error fault =>
      if fault = .present ∧ t.isDirectory path then .ok (t, missing) else .error fault

/-- Makes the directories in order; those made before a refusal stay. -/
def makeEach (t : FileTree) : List String → FileTree × Except FileFault Unit
  | [] => (t, .ok ())
  | path :: rest =>
    match t.makeDirectory path with
    | .ok made => makeEach made rest
    | .error fault =>
      if fault = .present ∧ t.isDirectory path then makeEach t rest else (t, .error fault)

/-- Makes a directory and the parents that it lacks. -/
def makeDirectories (t : FileTree) (path : String) : FileTree × Except FileFault Unit :=
  match t.makeLongest [] (Path.makeable path) with
  | .error fault => (t, .error fault)
  | .ok (made, missing) => made.makeEach missing

/-- Puts a file at a path, or a directory where there is no content, and makes the directories on the
way. What is refused is left out. -/
def plant (t : FileTree) (path : String) (content : Option Content) : FileTree :=
  match content with
  | none => (t.makeDirectories path).1
  | some content =>
    let ready := (t.makeDirectories ((Path.parent? path).getD "")).1
    match ready.write path content with
    | .ok planted => planted
    | .error _ => ready

/-- Sets the mode of a file. -/
def setMode (t : FileTree) (path : String) (mode : Nat) : Except FileFault FileTree :=
  match t.locate path with
  | .error fault => .error fault
  | .ok place =>
    match t.node? place with
    | none => .error .missing
    | some .directory => .ok t
    | some (.file content _) =>
      if place ∈ t.fixedModes then .error .notPermitted else .ok (t.put place (.file content mode))

/-- The mode of a file. -/
def mode? (t : FileTree) (path : String) : Option Nat :=
  match t.lookup path with
  | .ok (.file _ mode) => some mode
  | _ => none

/-- An empty working directory. -/
def emptyAt (workingDirectory : Location) : FileTree :=
  { workingDirectory, nodes := [] }

/-- The root as working directory, with the given texts in it. -/
def holding (texts : List (String × String)) : FileTree where
  workingDirectory := []
  nodes := texts.map fun (name, text) => ([name], .file (.text text) plainMode)

/-- The names that lead on from a place above. -/
def below? (base place : Location) : Option Location :=
  if base.isPrefixOf place && base.length < place.length then some (place.drop base.length) else none

/-- The files under the working directory by their paths, and the directories that are empty. -/
def listing (t : FileTree) : List (String × Option String) :=
  t.nodes.filterMap fun (place, node) =>
    (below? t.workingDirectory place).bind fun names =>
      let path := "/".intercalate names
      match node with
      | .file content _ => some (path, some content.shown)
      | .directory =>
        if t.nodes.any fun other => (below? place other.1).isSome then none
        else some (path ++ "/", none)

end FileTree

end CommandVerbs
