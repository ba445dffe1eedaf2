import CommandVerbs.Fault
import CommandVerbs.Service.Codec
import CommandVerbs.Service.Target
import CommandVerbs.Text.Blank
import CommandVerbs.Text.Utf8

/-!
# The line protocol

A client writes each call as one line of JSON and reads one line in reply. Requests and replies
belong together by their order alone, so every call takes exactly one line from what the peer sends,
whatever that line holds. How requests are written and responses read is up to a codec.
-/

namespace CommandVerbs.Service

/-- One end of a connection. -/
structure Wire where
  /-- what the peer has sent and nobody has read; after it comes the end of the stream -/
  incoming : List UInt8
  /-- what has been written, the last text first -/
  written : List String := []
  /-- why writing fails, if it does -/
  writeRefusal : Option String := none
  /-- why closing fails, if it does -/
  closeRefusal : Option String := none
  deriving Inhabited

/-- The bytes up to a line feed, with it, and those after it. -/
def takeLine : List UInt8 → List UInt8 × List UInt8
  | [] => ([], [])
  | b :: rest =>
    if b = 0x0A then ([b], rest)
    else
      let (line, rest) := takeLine rest
      (b :: line, rest)

/-- An open connection and the number of the next call. -/
structure Client where
  wire : Wire
  nextId : UInt64 := 1
  closed : Bool := false
  deriving Inhabited

namespace Client

variable (codec : Codec)

/-- A text that cannot be written or read as JSON. -/
def invalidJson (reason : String) : ConnectionFault :=
  .protocol s!"invalid JSON: {reason}"

/-- What a reply line means; an empty one is the end of the stream. -/
def response? (line : List UInt8) : Except ConnectionFault Response :=
  if line.isEmpty then .error (.protocol "connection closed by peer")
  else match Text.Utf8.decode line with
    | none => .error (.protocol "I/O error: stream did not contain valid UTF-8")
    | some chars =>
      (codec.readResponse (String.ofList (Text.dropBlanksEnd chars))).mapError invalidJson

/-- Calls a procedure. The number of the call, one of 64 bits, is used up even if the call fails. -/
def call (c : Client) (procedure : String) (parameters : List Json) :
    Client × Except ConnectionFault Response :=
  if c.closed then (c, .error .notConnected)
  else
    let next := { c with nextId := c.nextId + 1 }
    match codec.writeRequest { id := c.nextId, procedure, parameters } with
    | .error reason => (next, .error (invalidJson reason))
    | .ok request =>
      match c.wire.writeRefusal with
      | some reason => (next, .error (.protocol s!"I/O error: {reason}"))
      | none =>
        let (line, rest) := takeLine c.wire.incoming
        let wire :=
          { c.wire with
            incoming := rest
            written := (request ++ "\n") :: c.wire.written }
        ({ next with wire }, response? codec line)

/-- The procedure that tells the service who calls. -/
def loginProcedure : String := "@Login"

/-- Logs in as whom the target names, if it names anyone; no password is an empty one. -/
def logIn (c : Client) (target : Target) : Client × Except ConnectionFault Unit :=
  match target.username with
  | none => (c, .ok ())
  | some username =>
    match c.call codec loginProcedure [.text username, .text (target.password.getD "")] with
    | (c, .error fault) => (c, .error fault)
    | (c, .ok response) =>
      if response.succeeded then (c, .ok ())
      else
        let status := response.statusText.getD ""
        (c, .error (.protocol s!"login rejected for {inQuotes username}: {status}"))

/-- Closes the connection; a second time there is nothing to close. -/
def close (c : Client) : Client × Except ConnectionFault Unit :=
  if c.closed then (c, .ok ())
  else match c.wire.closeRefusal with
    | some reason => ({ c with closed := true }, .error (.close reason))
    | none => ({ c with closed := true }, .ok ())

/-- Everything written so far. -/
def sent (c : Client) : String :=
  String.join c.wire.written.reverse

end Client

end CommandVerbs.Service
