import CommandVerbs.Bundle.Basic

/-!
# Connection bundles

The options that say where to connect and as whom, and a bundle that keeps a connection open while
the body of a verb runs.
-/

namespace CommandVerbs

/-- The port of client connections. -/
def clientPort : UInt16 := 21212

/-- The port of administrative connections. -/
def adminPort : UInt16 := 21211

/-- How often a failed connection is tried again. -/
def connectRetries : UInt32 := 5

/-- The options of a connection to between `min` and `max` hosts. -/
structure ConnectionOptions where
  defaultPort : Option UInt16 := none
  min : Nat := 1
  max : Nat := 1
  deriving DecidableEq, Repr, Inhabited

namespace ConnectionOptions

def specs (o : ConnectionOptions) : List OptionSpec :=
  [.declare (some 'H') (some "--host") "host" (some "HOST[:PORT] (default HOST=localhost)")
      (.hosts o.min o.max o.defaultPort) (some (.text "localhost")),
    .declare (some 'p') (some "--password") "password" (some "password (default: none)") .text none,
    .declare (some 'u') (some "--user") "username" (some "username (default: none)") .text none]

/-- The bundle that adds the options and does nothing else. -/
def bundle (o : ConnectionOptions) : Bundle :=
  { hooks := { complete := true }
    complete := fun v => (v.addOptions o.specs, []) }

end ConnectionOptions

/-- A connection that lasts as long as the body of a verb. -/
structure ClientConnection where
  port : UInt16
  retries : UInt32 := connectRetries
  deriving DecidableEq, Repr, Inhabited

namespace ClientConnection

def options (c : ClientConnection) : ConnectionOptions :=
  { defaultPort := some c.port }

/-- The target that the options of the command line name. -/
def target (defaultPort : Option UInt16) : Script Service.Target := do
  let values ← Script.values
  match values.host? "host" with
  | none => Script.abort "A host is required to connect." []
  | some address =>
    match address.port.or defaultPort with
    | none => Script.abort s!"No port was given for host {inQuotes address.host}." []
    | some port =>
      return ({ host := address.host, port } : Service.Target).withCredentials
        (values.text? "username") (values.text? "password")

/-- Connects to the target of the command line. -/
def start (c : ClientConnection) : Script Unit := do
  let target ← target c.options.defaultPort
  Script.report .connecting
  Script.connect target c.retries

/-- Closes the connection if it is still open. -/
def stop : Script Unit := do
  if ← Script.connected then Script.disconnect

def bundle (c : ClientConnection) : Bundle :=
  { c.options.bundle with
    hooks := { complete := true, start := true, stop := true }
    start := fun _ => c.start
    stop := fun _ => stop }

end ClientConnection

end CommandVerbs
