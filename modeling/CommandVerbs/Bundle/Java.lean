import CommandVerbs.Bundle.Basic

/-!
# Launching bundles

A bundle that launches a Java class with the arguments that the verb passes on, and one that launches
a database server. The options for debugging and for a dry run are common to both.
-/

namespace CommandVerbs

/-- A class to launch. -/
structure JavaLaunch where
  target : String
  /-- the verb passes trailing arguments on -/
  passthrough : Bool := false
  /-- options for the virtual machine, in place of the launcher's own -/
  options : List String := []
  deriving DecidableEq, Repr, Inhabited

namespace JavaLaunch

/-- The options of a launch on the command line. -/
def specs : List OptionSpec :=
  [.declare none (some "--debugport") "debugport"
      (some "enable remote Java debugging on the specified port") .integer none,
    .declare none (some "--dry-run") "dryrun" none .flag none]

def complete (j : JavaLaunch) (v : Verb) : Verb :=
  ((v.complete { passthrough := some j.passthrough }).addOptions specs).mergeLaunchOptions j.options

/-- The port of a debugger, if the command line names one. -/
def debugPort : Script (Option UInt16) := do
  match (← Script.values).integer? "debugport" with
  | none => return none
  | some port =>
    if 0 ≤ port ∧ port ≤ 0xFFFF then return some port.toNat.toUInt16
    else Script.abort s!"Invalid debug port: {port}" []

/-- Launches the class for a verb. -/
def launch (j : JavaLaunch) (v : Verb) (arguments : List String) : Script Unit := do
  let debugPort ← debugPort
  let values ← Script.values
  Script.launch
    { target := j.target
      classpath := v.classpath
      options := v.attributes.launchOptions
      debugPort
      dryRun := values.flag "dryrun"
      arguments }

def bundle (j : JavaLaunch) : Bundle :=
  { hooks := { complete := true, go := true }
    complete := fun v => (j.complete v, [])
    go := fun v => do j.launch v (← Script.invocation).passed }

end JavaLaunch

/-- A database server to launch. -/
structure ServerLaunch where
  /-- the mode in which the server starts -/
  mode : String
  target : String := "org.voltdb.VoltDB"
  /-- the setting that names the catalog if the command line does not -/
  catalogKey : String := "server.catalog"
  deriving DecidableEq, Repr, Inhabited

namespace ServerLaunch

def java (s : ServerLaunch) : JavaLaunch :=
  { target := s.target
    options := ["-server", "-XX:+HeapDumpOnOutOfMemoryError", "-XX:HeapDumpPath=/tmp",
      "-XX:-ReduceInitialCardMarks"] }

def specs : List OptionSpec :=
  [.declare (some 'd') (some "--deployment") "deployment"
      (some "the deployment configuration file path") .text (some (.text "deployment.xml")),
    .declare (some 'H') (some "--host") "host" (some "the host") (.hosts 1 1 none)
      (some (.text "localhost")),
    .declare (some 'l') (some "--license") "license" (some "the license file path") .text none]

def catalogArgument : ArgumentSpec :=
  { name := "catalog"
    help := "the application catalog jar file path (default: configured catalog)"
    min := 0 }

def complete (s : ServerLaunch) (v : Verb) : Verb :=
  ((s.java.complete v).addOptions specs).addArguments [catalogArgument]

/-- The catalog of the command line, else the configured one; an empty text is none. -/
def catalog (s : ServerLaunch) : Script String := do
  match ((← Script.values).text? "catalog").filter (· != "") with
  | some catalog => return catalog
  | none =>
    match (← Script.getSetting s.catalogKey).filter (· != "") with
    | some catalog => return catalog
    | none => Script.abort "A catalog path is required." []

/-- A keyword and its value, if there is one. -/
def keyword (word : String) : Option String → List String
  | none => []
  | some value => [word, value]

/-- The server's arguments: its mode, then keywords with their values. -/
def arguments (s : ServerLaunch) (catalog : String) (values : Values) : List String :=
  let host := values.host? "host"
  [s.mode, "catalog", catalog] ++ keyword "deployment" (values.text? "deployment") ++
    keyword "host" (host.map (·.host)) ++
    keyword "port" ((host.bind (·.port)).map toString) ++
    keyword "license" (values.text? "license")

/-- Launches the server. -/
def launch (s : ServerLaunch) (v : Verb) : Script Unit := do
  let catalog ← s.catalog
  s.java.launch v (s.arguments catalog (← Script.values))

def bundle (s : ServerLaunch) : Bundle :=
  { hooks := { complete := true, go := true }
    complete := fun v => (s.complete v, [])
    go := s.launch }

end ServerLaunch

end CommandVerbs
