import CommandVerbs.Console.Startup

/-!
# What a run may touch

The places in a file tree that a run of the program may read or change, found before it runs: the
environment file, the configuration file, and the launchers that are asked for. Whoever keeps files
elsewhere needs to provide no more than these.
-/

namespace CommandVerbs.Startup

/-- The place that a path names if no directory on the way is a link. -/
def placeOf (workingDirectory : Location) (path : String) : Location :=
  (Path.names path).foldl
    (fun place name =>
      if name = "." then place else if name = ".." then place.dropLast else place ++ [name])
    (if Path.isAbsolute path then [] else workingDirectory)

/-- A place and the places on the way to it, the root first. -/
def wayTo (place : Location) : List Location :=
  (List.range (place.length + 1)).map place.take

/-- The places where an environment file may be. -/
def environmentPlaces (workingDirectory : Location) : List Location :=
  (wayTo workingDirectory).map (· ++ [EnvironmentFile.fileName])

/-- The launchers that an invocation asks for. -/
def launchers (packager : Packager) (invocation : Invocation) : List String :=
  if invocation.verb = "package" then packager.targets (Bundle.packageRequest invocation.values)
  else []

/-- The paths that a console touches when it carries out a command line. -/
def pathsOf (c : Console) (line : CommandLine) : List String :=
  let configPath := c.configPath line
  let invocation? := do
    let (name, matched) ← line.verb
    let e ← c.registry.get? name
    (e.verb.invocation matched).2.toOption
  configPath :: ((invocation?.map (launchers (c.packager configPath))).getD [])

/-- The paths that a run touches, once the environment file is provided. -/
def paths (parser : Parser) (s : Startup) : List String :=
  let environment := EnvironmentFile.loadFrom s.environment s.files
  let line? := do
    let directory ← dataDirectory? environment
    let console ← (Console.start (s.settings environment directory)).toOption
    let line ← (parser console.grammar s.words).toOption
    return pathsOf console line
  line?.getD []

/-- The places that a run touches, and those on the way. -/
def places (parser : Parser) (s : Startup) : List Location :=
  ((s.paths parser).flatMap fun path => wayTo (placeOf s.files.workingDirectory path)).eraseDups

end CommandVerbs.Startup
