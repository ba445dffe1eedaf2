import CommandVerbs.Fault
import CommandVerbs.Files.Tree
import CommandVerbs.Package.Request

/-!
# Launcher scripts

A package is a shell script for each name, which runs the program again, with its configuration file
pinned if the packager knows one. Without force, nothing is written if any of the files exists.
-/

namespace CommandVerbs

structure Packager where
  /-- the program that the scripts run -/
  program : String
  /-- the name that is packaged if none is asked for -/
  defaultName : String
  configPath : Option String := none
  deriving DecidableEq, Repr, Inhabited

namespace Packager

/-- The lines that choose the configuration file unless the environment does. -/
def configLines (path : String) : String :=
  "VERBKIT_CONFIG=\"$\x7bVERBKIT_CONFIG:-" ++ path ++ "\x7d\"\nexport VERBKIT_CONFIG\n"

/-- The script for a name. -/
def script (p : Packager) (name : String) : String :=
  "#!/bin/sh\n# " ++ name ++ ": generated launcher\n" ++ (p.configPath.map configLines).getD "" ++
    "exec \"" ++ p.program ++ "\" \"$@\"\n"

/-- The names that a request asks for. -/
def names (p : Packager) (r : PackageRequest) : List String :=
  if r.names.isEmpty then [p.defaultName] else r.names

def directory (r : PackageRequest) : String :=
  r.directory.getD "."

/-- The path of the script for a name. -/
def target (r : PackageRequest) (name : String) : String :=
  Path.join (directory r) name

def targets (p : Packager) (r : PackageRequest) : List String :=
  (p.names r).map (target r)

/-- Writes a program. It stays if its mode cannot be set. -/
def writeProgram (files : FileTree) (path text : String) : FileTree × Except FileFault Unit :=
  match files.write path (.text text) with
  | .error fault => (files, .error fault)
  | .ok written =>
    match written.setMode path FileTree.programMode with
    | .error fault => (written, .error fault)
    | .ok written => (written, .ok ())

/-- Writes the scripts in order up to the first that fails, and returns how many did not. -/
def writeEach (p : Packager) (r : PackageRequest) (files : FileTree) :
    List String → FileTree × Nat × Except FileFault Unit
  | [] => (files, 0, .ok ())
  | name :: rest =>
    match writeProgram files (target r name) (p.script name) with
    | (files, .error fault) => (files, 0, .error fault)
    | (files, .ok ()) =>
      let (files, count, result) := writeEach p r files rest
      (files, count + 1, result)

/-- The files as packaging leaves them, how many scripts were finished, and their paths or what went
wrong. -/
def package (p : Packager) (r : PackageRequest) (files : FileTree) :
    FileTree × Nat × Except Fault (List String) :=
  let existing := (p.targets r).filter files.contains
  if !r.force && !existing.isEmpty then
    (files, 0, .error (.aborted
      "Output files exist, delete them or use the force option to overwrite:" existing))
  else
    match files.makeDirectories (directory r) with
    | (files, .error fault) => (files, 0, .error (.output fault.message))
    | (files, .ok ()) =>
      match p.writeEach r files (p.names r) with
      | (files, count, .error fault) => (files, count, .error (.output fault.message))
      | (files, count, .ok ()) => (files, count, .ok (p.targets r))

end Packager

end CommandVerbs
