import CommandVerbs.Config.Store
import CommandVerbs.Launch.Launching
import CommandVerbs.Registry

/-!
# Recorders

A recorder stands in for the surroundings of a verb: it answers every request from values that are set
beforehand and keeps what was requested. It is for trying verbs out without a service, a configuration
file or a program to launch.
-/

namespace CommandVerbs

structure Recorder where
  invocation : Invocation
  settings : KeyMap String := .empty
  output : String := ""
  errors : String := ""
  launches : List LaunchRequest := []
  /-- the status with which launched programs end -/
  exitCode : Int := 0
  /-- takes launches in place of the recorder -/
  launcher : Option Launcher := none
  /-- where programs for the launcher are -/
  files : FileTree
  /-- the dry runs of the launcher -/
  echo : Sink := {}
  connected : Option Service.Target := none
  /-- the retries of the last connection -/
  retries : Option UInt32 := none
  /-- why connecting fails, if it does -/
  connectRefusal : Option String := none
  disconnects : Nat := 0
  calls : List (String × List Json) := []
  /-- the responses of the next calls -/
  responses : List Service.Response := []
  helps : List (List String × Bool) := []
  packages : List PackageRequest := []
  /-- the event log, the latest line first -/
  events : List String := []
  /-- the diagnostics, the latest first -/
  diagnostics : List Diagnostic := []

namespace Recorder

def note (r : Recorder) (event : String) : Recorder :=
  { r with events := event :: r.events }

def report (r : Recorder) (d : Diagnostic) : Recorder :=
  { r with diagnostics := d :: r.diagnostics }

def write (r : Recorder) : Channel → String → Recorder
  | .output, text => { r with output := r.output ++ text }
  | .errors, text => { r with errors := r.errors ++ text }

def setSetting (r : Recorder) (key value : String) : Except ConfigFault Unit × Recorder :=
  match Config.Store.setPair r.settings key value with
  | .ok settings => (.ok (), { r with settings })
  | .error fault => (.error fault, r)

/-- Connects. The number of attempts that a failure tells is kept in 32 bits. -/
def connect (r : Recorder) (target : Service.Target) (retries : UInt32) :
    Except ConnectionFault Unit × Recorder :=
  let r := { r.note s!"connect({target.address})" with retries := some retries }
  match r.connectRefusal with
  | some reason => (.error (.unreachable target.address (retries + 1).toNat reason), r)
  | none => (.ok (), { r with connected := some target })

def disconnect (r : Recorder) : Recorder :=
  { r.note "disconnect" with disconnects := r.disconnects + 1, connected := none }

/-- Calls while connected; when the responses are used up, a call succeeds without results. -/
def call (r : Recorder) (procedure : String) (parameters : List Json) :
    Except ConnectionFault Service.Response × Recorder :=
  match r.connected with
  | none => (.error .notConnected, r)
  | some _ =>
    let r := { r.note s!"call({procedure})" with calls := r.calls ++ [(procedure, parameters)] }
    match r.responses with
    | [] => (.ok (.success []), r)
    | response :: rest => (.ok response, { r with responses := rest })

/-- Launches, or records what would be launched. -/
def launch (r : Recorder) (request : LaunchRequest) : Except ProcessFault Unit × Recorder :=
  match r.launcher with
  | some launcher =>
    let (result, echo, diagnostics) := launcher.launch r.files r.echo request
    (result, { r with echo, diagnostics := diagnostics ++ r.diagnostics })
  | none =>
    let r := { r with launches := r.launches ++ [request] }
    if r.exitCode = 0 then (.ok (), r)
    else (.error (.nonZeroExit request.target r.exitCode), r)

/-- Answers the requests of a verb. -/
def runner : Runner Recorder
  | .invocation, r => (r.invocation, r)
  | .write channel text, r => (.ok (), r.write channel text)
  | .getSetting key, r => (r.settings.get? key, r)
  | .setSetting key value, r => r.setSetting key value
  | .removeSetting key, r =>
    (.ok (r.settings.contains key), { r with settings := r.settings.erase key })
  | .listSettings filter, r => ((Config.Store.memory r.settings).query filter, r)
  | .connect target retries, r => r.connect target retries
  | .connected, r => (r.connected.isSome, r)
  | .disconnect, r => (.ok (), r.disconnect)
  | .call procedure parameters, r => r.call procedure parameters
  | .launch request, r => r.launch request
  | .help names all, r => (.ok (), { r with helps := r.helps ++ [(names, all)] })
  | .package request, r => (.ok (), { r with packages := r.packages ++ [request] })
  | .report diagnostic, r => ((), r.report diagnostic)
  | .note event, r => ((), r.note event)

/-- Executes a verb. -/
def execute (depth : Nat) (e : Entry) (r : Recorder) : Outcome Unit × Recorder :=
  (e.execute depth).run runner r

end Recorder

end CommandVerbs
