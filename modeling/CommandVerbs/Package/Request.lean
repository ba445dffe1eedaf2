/-!
# Package requests

What a verb asks for when it wants launcher scripts to be written.
-/

namespace CommandVerbs

structure PackageRequest where
  /-- the working directory if absent -/
  directory : Option String := none
  /-- overwrite files that are there -/
  force : Bool := false
  /-- the program itself if empty -/
  names : List String := []
  deriving DecidableEq, Repr, Inhabited

end CommandVerbs
