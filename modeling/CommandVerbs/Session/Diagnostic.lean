/-!
# Diagnostics

Remarks for whoever looks into a run of the program. A diagnostic names the part of the program that
it comes from and tells further details by name; filters go by these names, by the source and by the
severity. All diagnostics of the program are listed here.
-/

namespace CommandVerbs

/-- How urgent a diagnostic is. -/
inductive Severity where
  | debug
  | info
  | warn
  | error
  deriving DecidableEq, Repr, Inhabited

namespace Severity

/-- How urgent a severity is, as a number. -/
def rank : Severity → Nat
  | .debug => 0
  | .info => 1
  | .warn => 2
  | .error => 3

end Severity

/-- A remark for whoever looks into a run. -/
structure Diagnostic where
  severity : Severity
  /-- the part of the program that it comes from -/
  source : String
  message : String
  /-- the names of the details beside the message -/
  details : List String := []
  deriving DecidableEq, Repr, Inhabited

namespace Diagnostic

/-- Whether the diagnostic tells the detail of a name; the message is one of them. -/
def tells (d : Diagnostic) (detail : String) : Bool :=
  detail == "message" || d.details.contains detail

/-! ## Declarations -/

/-- A verb has been declared. -/
def declared : Diagnostic :=
  ⟨.debug, "verbkit_core::verb", "Declared verb", ["verb", "options", "arguments"]⟩

/-- A bundle completes a verb. -/
def completing : Diagnostic :=
  ⟨.debug, "verbkit_core::verb::command", "Initializing bundle", ["verb", "bundle"]⟩

/-- A verb has been registered. -/
def registered : Diagnostic :=
  ⟨.debug, "verbkit_core::registry", "Registered verb", ["verb", "kind"]⟩

/-- The console is ready to read a command line. -/
def ready : Diagnostic :=
  ⟨.debug, "verbkit_cli::bootstrap", "Verbs declared", ["verbs"]⟩

/-! ## Before a verb is executed -/

/-- The configuration file is known. -/
def configChosen : Diagnostic :=
  ⟨.debug, "verbkit_cli::bootstrap", "Using configuration file", ["config"]⟩

/-- A line of the configuration file is passed over. -/
def lineSkipped (line : String) : Diagnostic :=
  ⟨.debug, "verbkit_runtime::config_store", s!"Ignoring malformed configuration line: {line}", []⟩

/-- The configuration file has been read. -/
def configLoaded : Diagnostic :=
  ⟨.debug, "verbkit_runtime::config_store", "Loaded configuration", ["path", "entries"]⟩

/-- The program that runs Java is known. -/
def javaResolved : Diagnostic :=
  ⟨.debug, "verbkit_runtime::java", "Resolved Java executable", ["java"]⟩

/-- A verb is about to be executed. -/
def executing : Diagnostic :=
  ⟨.debug, "verbkit_runtime::runner", "Executing verb", ["verb", "kind"]⟩

/-! ## While a verb is executed -/

/-- A verb stops with a message. -/
def aborted (message : String) : Diagnostic :=
  ⟨.error, "verbkit_core::ports::runner", message, ["verb"]⟩

/-- A remark of a verb's own. -/
def remark (message : String) : Diagnostic :=
  ⟨.debug, "verbkit_core::ports::runner", message, ["verb", "details"]⟩

/-- Stopping a bundle fails after another one has failed to stop. -/
def stopFailed (reason : String) : Diagnostic :=
  ⟨.warn, "verbkit_core::verb::command", s!"Bundle stop failed: {reason}", ["verb", "bundle"]⟩

/-- Stopping a bundle fails after the verb itself has failed. -/
def stopFailedAfterFault (reason : String) : Diagnostic :=
  ⟨.warn, "verbkit_core::verb::command", s!"Bundle stop failed after verb error: {reason}", ["verb"]⟩

/-- The properties of a tool have been checked. -/
def propertiesLoaded : Diagnostic :=
  ⟨.debug, "verbkit_core::config_tool", "Loaded configuration properties",
    ["key", "reset", "missing", "defaults"]⟩

/-- A launcher script has been written. -/
def launcherWritten : Diagnostic :=
  ⟨.info, "verbkit_runtime::packager", "Wrote launcher script", ["path"]⟩

/-- A Java program is about to be started. -/
def launching : Diagnostic :=
  ⟨.info, "verbkit_runtime::java", "Launching Java process", ["command"]⟩

/-- A bundle is about to connect. -/
def connecting : Diagnostic :=
  ⟨.debug, "verbkit_core::bundles::connection", "Connecting", ["address", "retries"]⟩

/-- An attempt to connect has failed. -/
def attemptFailed (reason : String) : Diagnostic :=
  ⟨.warn, "verbkit_runtime::client", s!"Connection attempt failed: {reason}",
    ["address", "attempt", "attempts"]⟩

/-- An attempt to connect has succeeded. -/
def attemptSucceeded : Diagnostic :=
  ⟨.info, "verbkit_runtime::client", "Connected", ["address", "attempt"]⟩

/-- There is a connection. -/
def connected : Diagnostic :=
  ⟨.info, "verbkit_runtime::runner", "Connected to service", ["address"]⟩

/-- The connection ended with the cluster. -/
def endedWithCluster (reason : String) : Diagnostic :=
  ⟨.debug, "verbkit_cli::verbs::admin", s!"Connection ended during shutdown: {reason}", []⟩

end Diagnostic

end CommandVerbs
