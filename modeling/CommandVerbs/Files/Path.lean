import CommandVerbs.Text.Split

/-!
# Paths

A path is a text whose names are separated by slashes. Empty names and dots within it say nothing;
a slash at its start leads from the root.
-/

namespace CommandVerbs.Path

/-- Whether the path starts at the root. -/
def isAbsolute (path : String) : Bool :=
  path.toList.head? == some '/'

/-- Whether the path ends with a slash, and so names a directory. -/
def endsWithSlash (path : String) : Bool :=
  path.toList.getLast? == some '/'

/-- The names on the way along a path. -/
def names (path : String) : List String :=
  (Text.splitAt '/' path).filter (· != "")

/-- The path of `name` seen from `base`; an absolute name stands for itself. -/
def join (base name : String) : String :=
  if isAbsolute name then name
  else if base.isEmpty || endsWithSlash base then base ++ name
  else base ++ "/" ++ name

/-- Drops what says nothing from the end of a path that is given by its pieces backwards. -/
def dropIdle : List String → List String
  | piece :: next :: rest =>
    if piece = "" ∨ piece = "." then dropIdle (next :: rest) else piece :: next :: rest
  | pieces => pieces

/-- The path without its last name, or nothing for the root and the empty path. -/
def parent? (path : String) : Option String :=
  match dropIdle (Text.splitAt '/' path).reverse with
  | [] | [""] => none
  | [_] => some ""
  | _ :: rest =>
    match dropIdle rest with
    | [""] => some "/"
    | pieces => some ("/".intercalate pieces.reverse)

/-- The path and what its parents are, from the longest to the shortest. The empty path and the root
are left out. -/
def ancestors : Nat → String → List String
  | 0, _ => []
  | fuel + 1, path =>
    match parent? path with
    | none => []
    | some parent => path :: ancestors fuel parent

/-- The path and its parents that can be made as directories. -/
def makeable (path : String) : List String :=
  ancestors (path.length + 1) path

end CommandVerbs.Path
