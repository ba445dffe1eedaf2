import CommandVerbs.Session.Request

/-!
# Scripts

A script is what a verb does: a tree of requests, where each reply selects how to go on. It ends with
a value or a fault, or is cut off where a recursion was allowed no further step. Running a script
against a runner gives its outcome and the runner's new state.
-/

namespace CommandVerbs

inductive Script (α : Type) where
  | done (value : α)
  | fail (fault : Fault)
  | ask (request : Request) (next : request.Reply → Script α)
  /-- cut off -/
  | unfinished

namespace Script

variable {α β : Type}

/-- Goes on with the value of a script. -/
def andThen (script : Script α) (next : α → Script β) : Script β :=
  match script with
  | .done value => next value
  | .fail fault => .fail fault
  | .ask request reply => .ask request fun r => (reply r).andThen next
  | .unfinished => .unfinished

instance : Monad Script where
  pure := .done
  bind := andThen

/-- Makes the fault of a script its value. -/
def attempt (script : Script α) : Script (Except Fault α) :=
  match script with
  | .done value => .done (.ok value)
  | .fail fault => .done (.error fault)
  | .ask request reply => .ask request fun r => (reply r).attempt
  | .unfinished => .unfinished

/-- A request and its reply. -/
def request (r : Request) : Script r.Reply :=
  .ask r .done

/-- The value of a result, or its fault. -/
def ofExcept {ε : Type} (fault : ε → Fault) : Except ε α → Script α
  | .ok value => .done value
  | .error e => .fail (fault e)

def invocation : Script Invocation :=
  request .invocation

def values : Script Values := do
  return (← invocation).values

def note (event : String) : Script Unit :=
  request (.note event)

/-- Writes a text to the output. -/
def write (text : String) : Script Unit := do
  ofExcept .output (← request (.write .output text))

/-- Writes a line to the output. -/
def writeLine (line : String) : Script Unit :=
  write (line ++ "\n")

def getSetting (key : String) : Script (Option String) :=
  request (.getSetting key)

def setSetting (key value : String) : Script Unit := do
  ofExcept .config (← request (.setSetting key value))

def removeSetting (key : String) : Script Bool := do
  ofExcept .config (← request (.removeSetting key))

def listSettings (filter : Option String) : Script (List (String × String)) :=
  request (.listSettings filter)

def connect (target : Service.Target) (retries : UInt32) : Script Unit := do
  ofExcept .connection (← request (.connect target retries))

def connected : Script Bool :=
  request .connected

def disconnect : Script Unit := do
  ofExcept .connection (← request .disconnect)

def call (procedure : String) (parameters : List Json) : Script Service.Response := do
  ofExcept .connection (← request (.call procedure parameters))

def launch (r : LaunchRequest) : Script Unit := do
  ofExcept .process (← request (.launch r))

def help (names : List String) (all : Bool) : Script Unit := do
  ofExcept id (← request (.help names all))

def package (r : PackageRequest) : Script Unit := do
  ofExcept id (← request (.package r))

def report (diagnostic : Diagnostic) : Script Unit :=
  request (.report diagnostic)

/-- Stops with a message for the user, which is reported as an error. -/
def abort (message : String) (details : List String) : Script α := do
  report (.aborted message)
  .fail (.aborted message details)

/-- The text of a message under a heading, its details indented on lines of their own. -/
def messageText (heading message : String) (details : List String) : String :=
  heading ++ ": " ++ message ++ "\n" ++ String.join (details.map fun d => "  " ++ d ++ "\n")

/-- Tells the user something. That it cannot be written is no fault. -/
def inform (message : String) (details : List String) : Script Unit := do
  let _ ← request (.write .output (messageText "INFO" message details))

/-- Tells the user of an error without stopping. -/
def complain (message : String) (details : List String) : Script Unit := do
  let _ ← request (.write .errors (messageText "ERROR" message details))

/-- Calls a procedure; with `check`, stops unless it succeeds. -/
def callChecked (procedure : String) (parameters : List Json) (check : Bool) :
    Script Service.Response := do
  let response ← call procedure parameters
  if check && !response.succeeded then
    let status := response.statusText.getD s!"status {response.status}"
    abort s!"{inQuotes procedure} call failed: {status}" []
  else return response

end Script

/-- How a script ends. -/
inductive Outcome (α : Type) where
  | done (value : α)
  | failed (fault : Fault)
  | unfinished
  deriving DecidableEq, Inhabited

/-- Answers every request from a state. -/
abbrev Runner (σ : Type) := (request : Request) → σ → request.Reply × σ

/-- Runs a script against a runner. -/
def Script.run {α σ : Type} (runner : Runner σ) : Script α → σ → Outcome α × σ
  | .done value, s => (.done value, s)
  | .fail fault, s => (.failed fault, s)
  | .ask request next, s =>
    let (reply, s) := runner request s
    (next reply).run runner s
  | .unfinished, s => (.unfinished, s)

end CommandVerbs
