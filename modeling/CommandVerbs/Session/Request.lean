import CommandVerbs.Fault
import CommandVerbs.Launch.Request
import CommandVerbs.Package.Request
import CommandVerbs.Service.Response
import CommandVerbs.Service.Target
import CommandVerbs.Session.Diagnostic
import CommandVerbs.Value

/-!
# Requests of a running verb

Everything that a verb can ask of its surroundings while it is executed, and what it is told in
reply. A verb has no other effects.
-/

namespace CommandVerbs

/-- Where output goes to. -/
inductive Channel where
  | output
  | errors
  deriving DecidableEq, Repr, Inhabited

/-- A request of a running verb. -/
inductive Request where
  /-- the command line that is being executed -/
  | invocation
  /-- write a text -/
  | write (channel : Channel) (text : String)
  | getSetting (key : String)
  | setSetting (key value : String)
  | removeSetting (key : String)
  | listSettings (filter : Option String)
  /-- open a connection, trying again the given number of times -/
  | connect (target : Service.Target) (retries : UInt32)
  | connected
  | disconnect
  | call (procedure : String) (parameters : List Json)
  | launch (request : LaunchRequest)
  /-- show help for the named verbs, or in general -/
  | help (names : List String) (all : Bool)
  | package (request : PackageRequest)
  | report (diagnostic : Diagnostic)
  /-- put a line into the event log -/
  | note (event : String)

/-- What the reply to a request is. -/
abbrev Request.Reply : Request → Type
  | .invocation => Invocation
  | .write _ _ => Except String Unit
  | .getSetting _ => Option String
  | .setSetting _ _ => Except ConfigFault Unit
  | .removeSetting _ => Except ConfigFault Bool
  | .listSettings _ => List (String × String)
  | .connect _ _ => Except ConnectionFault Unit
  | .connected => Bool
  | .disconnect => Except ConnectionFault Unit
  | .call _ _ => Except ConnectionFault Service.Response
  | .launch _ => Except ProcessFault Unit
  | .help _ _ => Except Fault Unit
  | .package _ => Except Fault Unit
  | .report _ => Unit
  | .note _ => Unit

end CommandVerbs
