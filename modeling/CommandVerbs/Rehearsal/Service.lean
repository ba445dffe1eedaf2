import CommandVerbs.Json.Writer
import CommandVerbs.Session.World

/-!
# Scripted services

A service for trying verbs out: what comes of connecting, calling and closing is laid down beforehand,
and every use is put into the event log. Each connection starts with all responses.
-/

namespace CommandVerbs

structure ScriptedService where
  /-- why connecting fails, if it does -/
  connectFault : Option ConnectionFault := none
  /-- what comes of the calls of a connection -/
  responses : List (Except ConnectionFault Service.Response) := []
  /-- why closing fails, if it does -/
  closeRefusal : Option String := none
  deriving Inhabited

namespace ScriptedService

/-- What is left of the responses for a connection. -/
abbrev Connection := List (Except ConnectionFault Service.Response)

def connect (target : Service.Target) (retries : UInt32) (w : World ScriptedService) :
    Except ConnectionFault Connection × World ScriptedService :=
  let w := w.note s!"connect {target.toJson.written} retries={retries}"
  match w.service.connectFault with
  | some fault => (.error fault, w)
  | none => (.ok w.service.responses, w)

/-- Calls; when the responses are used up, a call succeeds without results. -/
def call (connection : Connection) (procedure : String) (parameters : List Json)
    (w : World ScriptedService) :
    Except ConnectionFault Service.Response × Connection × World ScriptedService :=
  let w := w.note s!"call {procedure} {(Json.array parameters).written}"
  match connection with
  | [] => (.ok (.success []), [], w)
  | response :: rest => (response, rest, w)

def close (w : World ScriptedService) : Except ConnectionFault Unit × World ScriptedService :=
  let w := w.note "close"
  match w.service.closeRefusal with
  | some reason => (.error (.close reason), w)
  | none => (.ok (), w)

def port : World.Port Connection ScriptedService where
  connect := connect
  call := call
  close _ := close

end ScriptedService

end CommandVerbs
