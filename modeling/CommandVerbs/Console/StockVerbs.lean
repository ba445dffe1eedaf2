import CommandVerbs.Bundle.Base
import CommandVerbs.Bundle.Connection
import CommandVerbs.Bundle.Java
import CommandVerbs.Config.Tool
import CommandVerbs.Registry

/-!
# The stock verbs

The verbs of the program itself: help and packaging, the configuration, starting the database, and
the administration of a cluster that runs.
-/

namespace CommandVerbs.StockVerbs

/-- The key of the program's settings. -/
def configKey : String := "server"

/-- The name of the configuration file. -/
def configFileName : String := "verbkit.cfg"

/-- The settings of the program, which is called by the given name. -/
def tool (command : String) : Config.Tool :=
  { key := configKey
    command
    fileName := configFileName
    properties := .ofList
      [("catalog", { description := "application catalog jar file path" }),
        ("deployment",
          { description := "deployment configuration file path"
            default := some "deployment.xml" })] }

/-- A body that does what the bundles do. -/
def goOnly : Body :=
  fun c => c.go

/-- The verb that shows and changes settings. -/
def configDeclaration (tool : Config.Tool) : Declaration :=
  { attributes := { description := some "Manipulate and view configuration properties." }
    modifiers :=
      [.declare "get" (fun _ => tool.get) "Show one or more configuration properties." "KEY",
        .declare "reset" (fun _ => tool.reset)
          "Reset configuration properties to default values." "",
        .declare "set" (fun _ => tool.set)
          "Set one or more configuration properties (use KEY=VALUE format)." "KEY_VALUE"] }

/-- A verb that launches the database server in a mode. -/
def server (mode description : String) : Declaration :=
  { attributes := { description := some description }
    bundles := [({ mode } : ServerLaunch).bundle] }

/-- A verb that calls a procedure of the cluster over the administrative port. -/
def admin (description : String) : Declaration :=
  { attributes := { description := some description }
    bundles := [({ port := adminPort } : ClientConnection).bundle] }

/-- Calls a procedure, which has to succeed, and tells the user what has happened. -/
def callAndInform (procedure done : String) : Body :=
  fun _ => do
    let _ ← Script.callChecked procedure [] true
    Script.inform done []

/-- Shuts the cluster down. That the connection breaks with it is no fault. -/
def shutDown : Body :=
  fun _ => do
    match ← (Script.callChecked "@Shutdown" [] true).attempt with
    | .ok _ => Script.inform "The cluster is shutting down." []
    | .error (.connection fault) => do
      Script.report (.endedWithCluster fault.message)
      Script.inform "The cluster is shutting down." []
    | .error fault => .fail fault

/-- The declarations in order, each as the change that it makes. -/
def declarations (command : String) : List (Registry → Registry.Change) :=
  [(·.command "help" goOnly { bundles := [Bundle.help] }),
    (·.command "package" goOnly { bundles := [Bundle.package] }),
    (·.multiCommand "config" goOnly (configDeclaration (tool command))),
    (·.command "create" goOnly (server "create" "Start a new, empty database.")),
    (·.command "recover" goOnly
      (server "recover" "Start the database and recover the previous state.")),
    (·.command "pause" (callAndInform "@Pause" "The cluster is paused.")
      (admin "Pause the cluster and restrict access to the admin port.")),
    (·.command "resume" (callAndInform "@Resume" "The cluster has resumed.")
      (admin "Return the cluster to normal operation.")),
    (·.command "shutdown" shutDown (admin "Shut down the running cluster."))]

/-- Makes changes in order up to the first that is refused. -/
def declareEach (r : Registry) : List (Registry → Registry.Change) → Registry.Change
  | [] => { registry := r, result := .ok () }
  | change :: rest =>
    let made := change r
    match made.result with
    | .error _ => made
    | .ok () =>
      let later := declareEach made.registry rest
      { later with events := made.events ++ later.events }

/-- Registers the stock verbs of a program; those before a refusal stay. -/
def declare (command : String) (r : Registry) : Registry.Change :=
  declareEach r (declarations command)

end CommandVerbs.StockVerbs
