import CommandVerbs.Registry
import CommandVerbs.Text.Blank

/-!
# Running a verb in its surroundings

Adapters carry out the requests of a verb in surroundings of any type `ω`, with connections of any
type `κ`. The session adds what lies between: the command line that is executed, and the one
connection that may be open. Connecting anew closes the old connection first; when the verb has ended,
a connection that it left open is closed and the output is flushed, and nothing that comes of this
changes the outcome.
-/

namespace CommandVerbs

structure Adapters (κ ω : Type) where
  write : Channel → String → ω → Except String Unit × ω
  getSetting : String → ω → Option String
  setSetting : String → String → ω → Except ConfigFault Unit × ω
  removeSetting : String → ω → Except ConfigFault Bool × ω
  listSettings : Option String → ω → List (String × String)
  connect : Service.Target → UInt32 → ω → Except ConnectionFault κ × ω
  call : κ → String → List Json → ω → Except ConnectionFault Service.Response × κ × ω
  close : κ → ω → Except ConnectionFault Unit × ω
  launch : LaunchRequest → ω → Except ProcessFault Unit × ω
  /-- the text that helps with the named verbs, or in general -/
  help : List String → Bool → Except Fault String
  /-- writes packages and returns their paths -/
  package : PackageRequest → ω → Except Fault (List String) × ω
  /-- passes on what the output holds back -/
  flush : ω → Except String Unit × ω
  report : Diagnostic → ω → ω
  note : String → ω → ω

/-- The state of a run. -/
structure Session (κ ω : Type) where
  invocation : Invocation
  connection : Option κ := none
  world : ω

namespace Session

variable {κ ω : Type} (a : Adapters κ ω)

/-- Closes the connection if there is one; it is gone even if closing fails. -/
def disconnect (s : Session κ ω) : Except ConnectionFault Unit × Session κ ω :=
  match s.connection with
  | none => (.ok (), s)
  | some connection =>
    let (closed, world) := a.close connection s.world
    (closed, { s with connection := none, world })

/-- Connects, once an old connection is closed. -/
def connect (target : Service.Target) (retries : UInt32) (s : Session κ ω) :
    Except ConnectionFault Unit × Session κ ω :=
  match s.disconnect a with
  | (.error fault, s) => (.error fault, s)
  | (.ok (), s) =>
    match a.connect target retries s.world with
    | (.error fault, world) => (.error fault, { s with world })
    | (.ok connection, world) => (.ok (), { s with connection := some connection, world })

/-- Calls over the connection. -/
def call (procedure : String) (parameters : List Json) (s : Session κ ω) :
    Except ConnectionFault Service.Response × Session κ ω :=
  match s.connection with
  | none => (.error .notConnected, s)
  | some connection =>
    let (response, connection, world) := a.call connection procedure parameters s.world
    (response, { s with connection := some connection, world })

/-- Shows help, without blanks at its end. -/
def help (names : List String) (all : Bool) (s : Session κ ω) : Except Fault Unit × Session κ ω :=
  match a.help names all with
  | .error fault => (.error fault, s)
  | .ok text =>
    let (written, world) := a.write .output (Text.trimEnd text ++ "\n") s.world
    (written.mapError .output, { s with world })

/-- Tells the user which files have been made. -/
def announce (paths : List String) (world : ω) : ω :=
  paths.foldl
    (fun world path =>
      (a.write .output (Script.messageText "INFO" s!"Created {inQuotes path}." []) world).2)
    world

def package (r : PackageRequest) (s : Session κ ω) : Except Fault Unit × Session κ ω :=
  match a.package r s.world with
  | (.error fault, world) => (.error fault, { s with world })
  | (.ok paths, world) => (.ok (), { s with world := announce a paths world })

/-- Carries out what leaves the session as it is apart from its surroundings. -/
def lift {α : Type} (s : Session κ ω) : α × ω → α × Session κ ω
  | (reply, world) => (reply, { s with world })

/-- Answers the requests of a verb. -/
def runner : Runner (Session κ ω)
  | .invocation, s => (s.invocation, s)
  | .write channel text, s => s.lift (a.write channel text s.world)
  | .getSetting key, s => (a.getSetting key s.world, s)
  | .setSetting key value, s => s.lift (a.setSetting key value s.world)
  | .removeSetting key, s => s.lift (a.removeSetting key s.world)
  | .listSettings filter, s => (a.listSettings filter s.world, s)
  | .connect target retries, s => s.connect a target retries
  | .connected, s => (s.connection.isSome, s)
  | .disconnect, s => s.disconnect a
  | .call procedure parameters, s => s.call a procedure parameters
  | .launch request, s => s.lift (a.launch request s.world)
  | .help names all, s => s.help a names all
  | .package request, s => s.package a request
  | .report diagnostic, s => ((), { s with world := a.report diagnostic s.world })
  | .note event, s => ((), { s with world := a.note event s.world })

/-- Executes a verb for an invocation, closes the connection that it leaves open and flushes the
output. -/
def execute (depth : Nat) (e : Entry) (invocation : Invocation) (world : ω) : Outcome Unit × ω :=
  let (outcome, s) := (e.execute depth).run (runner a) { invocation, world }
  let (_, s) := s.disconnect a
  let (_, world) := a.flush s.world
  (outcome, world)

end Session

end CommandVerbs
