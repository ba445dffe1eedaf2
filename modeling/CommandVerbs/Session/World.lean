import CommandVerbs.Config.Store
import CommandVerbs.Launch.Launching
import CommandVerbs.Package.Scripts
import CommandVerbs.Service.Client
import CommandVerbs.Service.Dial
import CommandVerbs.Session.Adapters

/-!
# The surroundings of a program

What a program works on: files, settings, output, and the logs of events and diagnostics. The
remote service is a parameter.
-/

namespace CommandVerbs

/-- The surroundings, with a service in the state `service`. Logs have the latest line first. -/
structure World (σ : Type) where
  files : FileTree
  store : Config.Store := .memory .empty
  output : Sink := {}
  errors : Sink := {}
  /-- where dry runs are shown -/
  echo : Sink := {}
  events : List String := []
  diagnostics : List Diagnostic := []
  service : σ

namespace World

variable {σ : Type}

def note (w : World σ) (event : String) : World σ :=
  { w with events := event :: w.events }

def report (w : World σ) (d : Diagnostic) : World σ :=
  { w with diagnostics := d :: w.diagnostics }

def write (w : World σ) : Channel → String → Except String Unit × World σ
  | .output, text =>
    let (written, output) := w.output.write text
    (written, { w with output })
  | .errors, text =>
    let (written, errors) := w.errors.write text
    (written, { w with errors })

/-- Launches a program, or shows how it would be launched. -/
def launch (w : World σ) (l : Launcher) (r : LaunchRequest) :
    Except ProcessFault Unit × World σ :=
  let (result, echo, diagnostics) := l.launch w.files w.echo r
  (result, { w with echo, diagnostics := diagnostics ++ w.diagnostics })

def setSetting (w : World σ) (key value : String) : Except ConfigFault Unit × World σ :=
  let (store, files, result) := w.store.set w.files key value
  (result, { w with store, files })

def removeSetting (w : World σ) (key : String) : Except ConfigFault Bool × World σ :=
  let (store, files, result) := w.store.remove w.files key
  (result, { w with store, files })

/-- Writes packages. -/
def package (w : World σ) (p : Packager) (r : PackageRequest) :
    Except Fault (List String) × World σ :=
  let (files, count, result) := p.package r w.files
  let remarks := List.replicate count Diagnostic.launcherWritten
  (result, { w with files, diagnostics := remarks ++ w.diagnostics })

/-- The service that a program connects to. -/
structure Port (κ σ : Type) where
  connect : Service.Target → UInt32 → World σ → Except ConnectionFault κ × World σ
  call : κ → String → List Json → World σ →
    Except ConnectionFault Service.Response × κ × World σ
  close : κ → World σ → Except ConnectionFault Unit × World σ

/-- The adapters of a program with the given launcher, help, packager and service. -/
def adapters {κ : Type} (launcher : Launcher) (help : List String → Bool → Except Fault String)
    (package : PackageRequest → World σ → Except Fault (List String) × World σ)
    (port : Port κ σ) : Adapters κ (World σ) where
  write channel text w := w.write channel text
  getSetting key w := w.store.get? key
  setSetting key value w := w.setSetting key value
  removeSetting key w := w.removeSetting key
  listSettings filter w := w.store.query filter
  connect target retries w :=
    match port.connect target retries w with
    | (.ok connection, w) => (.ok connection, w.report .connected)
    | (.error fault, w) => (.error fault, w)
  call := port.call
  close := port.close
  launch r w := w.launch launcher r
  help := help
  package := package
  flush w := (.ok (), w)
  report d w := w.report d
  note event w := w.note event

/-- Dials with every failed attempt in the diagnostics. -/
def dialler {ρ κ : Type} (attempt : Service.Target → World σ → Except String ρ × World σ)
    (establish : Service.Target → UInt32 → ρ → World σ → Except ConnectionFault κ × World σ) :
    Service.Dialler ρ κ (World σ) where
  attempt := attempt
  establish := establish
  warn failed w := w.report (.attemptFailed failed.reason)
  pause := id

/-- The port of a program without a network: no attempt to connect succeeds. -/
def isolated : Port Empty σ where
  connect :=
    (dialler (fun target w => (.error (Service.unreachableReason target), w))
      fun _ _ (reached : Empty) => nomatch reached).connect
  call connection := nomatch connection
  close connection := nomatch connection

/-- The port of a program that speaks the line protocol over the wires that it gets hold of. -/
def wired (codec : Service.Codec)
    (attempt : Service.Target → World σ → Except String Service.Wire × World σ) :
    Port Service.Client σ where
  connect :=
    (dialler attempt fun target _ wire w =>
      let (client, loggedIn) := Service.Client.logIn codec { wire } target
      (loggedIn.map fun _ => client, w.report .attemptSucceeded)).connect
  call client procedure parameters w :=
    let (client, response) := client.call codec procedure parameters
    (response, client, w)
  close client w := (client.close.2, w)

end World

end CommandVerbs
