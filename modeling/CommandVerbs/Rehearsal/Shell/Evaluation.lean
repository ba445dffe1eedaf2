import CommandVerbs.Rehearsal.Shell.Expansion
import CommandVerbs.Rehearsal.Shell.Program
import CommandVerbs.Rehearsal.Shell.Streams

/-!
# Carrying out shell scripts

What commands do to the interpreter. An error in a special command or in an expansion ends the script;
a subshell, a pipe and the output of a script are carried out by a copy of the interpreter.
-/

namespace CommandVerbs.Shell

/-- Runs something of which an error is only a status. -/
def tolerant (run : Run Nat) : Run Nat :=
  tryCatch run fun
    | .refused => return misuse
    | departure => throw departure

/-- Runs a program of which the end by a signal is only a status. -/
def awaited (run : Run Nat) : Run Nat :=
  tryCatch run fun
    | .replaced signal => return signalStatus signal
    | departure => throw departure

/-- Runs a script to its end, and then what is to be done at its end. -/
def untilEnd (act : String → Run Nat) (run : Run Nat) : Run Nat := do
  let status ← tryCatch run fun
    | .exit status | .leaveFunction status => return status
    | .refused => return misuse
    | .leaveLoop _ | .nextTurn _ => return (← get).status
    | departure => throw departure
  match (← get).traps.lookup "EXIT" with
  | none => return status
  | some action =>
    modify fun i => { i with status, traps := i.traps.filter (·.1 != "EXIT") }
    tryCatch (do discard (act action); return status) fun
      | .exit status => return status
      | .refused => return misuse
      | departure => throw departure

/-- The actions for signals that stay with a new process: those that do nothing. -/
def idleTraps (i : Interpreter) : List (String × String) :=
  i.traps.filter (·.2 == "")

/-- Runs something in a copy of the interpreter. What it has written and read stays. -/
def inCopy (act : String → Run Nat) (run : Run Nat) : Run Nat := do
  let outer ← get
  set { outer with traps := idleTraps outer, outerTraps := some (outer.outerTraps.getD outer.traps) }
  let result ← attempt (awaited (untilEnd act run))
  modify fun i =>
    { outer with written := i.written, input := i.input, files := i.files, pending := i.pending }
  return (← MonadExcept.ofExcept result) % 256

/-- A new interpreter, which is given the exported variables. -/
def Interpreter.fresh (i : Interpreter) : Interpreter :=
  let initial : Interpreter := { files := i.files }
  { initial with
    process := i.process + 10
    bindings := i.bindings.filter (fun v => i.exported.contains v.1) ++ initial.bindings
    exported := i.exported
    input := i.input
    written := i.written
    traps := idleTraps i }

/-- Runs something in a new interpreter. -/
def inNew (act : String → Run Nat) (run : Run Nat) : Run Nat := do
  let outer ← get
  set outer.fresh
  let result ← attempt (untilEnd act run)
  modify fun i => { outer with written := i.written, input := i.input, files := i.files }
  match result with
  | .ok status => return status % 256
  | .error (.killed signal) => throw (.replaced signal)
  | .error departure => throw departure

/-- What a turn of a loop comes to, and whether the loop goes on. -/
def turn (depth : Nat) (run : Run (Option Nat)) : Run (Option Nat × Bool) := do
  modify fun i => { i with loops := depth }
  tryCatch (do let status ← run; return (status, status.isSome)) fun
    | .leaveLoop levels =>
      if levels ≤ 1 then return (some 0, false) else throw (.leaveLoop (levels - 1))
    | .nextTurn levels =>
      if levels ≤ 1 then return (some 0, true) else throw (.nextTurn (levels - 1))
    | departure => throw departure

/-- Runs turns until one of them ends the loop. -/
def repeated : (fuel : Nat) → (depth status : Nat) → Run (Option Nat) → Run Nat
  | 0, _, _, _ => refuse
  | fuel + 1, depth, status, run => do
    let (result, goesOn) ← turn depth run
    let status := result.getD status
    if goesOn then repeated fuel depth status run else return status

/-- Runs a turn for each item, unless one of them ends the loop. -/
def forItems (depth : Nat) (body : String → Run (Option Nat)) : (status : Nat) → List String → Run Nat
  | status, [] => return status
  | status, item :: items => do
    let (result, goesOn) ← turn depth (body item)
    let status := result.getD status
    if goesOn then forItems depth body status items else return status

/-- Takes back the binding of a variable. -/
def Interpreter.rebind (i : Interpreter) (binding : String × Option String) : Interpreter :=
  match binding with
  | (name, some value) => i.assign name value
  | (name, none) => { i with bindings := i.bindings.filter (·.1 != name) }

/-- Runs the body of a function. -/
def inFunction (arguments : List String) (run : Run Nat) : Run Nat := do
  let outer ← get
  set { outer with arguments, loops := 0, inFunction := true, hidden := [] }
  let result ← attempt run
  modify fun i =>
    { i.hidden.foldl Interpreter.rebind i with
      arguments := outer.arguments, loops := outer.loops, inFunction := outer.inFunction
      hidden := outer.hidden }
  match result with
  | .error (.leaveFunction status) => return status
  | result => MonadExcept.ofExcept result

/-- Runs a command with variables that are bound for it alone. -/
def withBindings (names : List String) (bind : Run Unit) (run : Run Nat) : Run Nat := do
  let outer ← get
  bind
  modify fun i => { i with exported := names ++ i.exported }
  let result ← attempt run
  modify fun i =>
    { names.foldl (fun i name => i.rebind (name, outer.lookup? name)) i with
      exported := i.exported.drop names.length }
  MonadExcept.ofExcept result

/-- Whether a command of a name is known. -/
def isKnown (i : Interpreter) (name : String) : Bool :=
  specialCommands.contains name || carryingCommands.contains name || reservedWords.contains name ||
    (i.functions.lookup name).isSome || (builtin? name).isSome || (program? name).isSome

/-- The command after the options of a program that runs another one. -/
def carried (program : String) : List String → List String
  | [] => []
  | word :: rest =>
    if ["-n", "-u", "-s", "-k", "-C"].contains word then carried program (rest.drop 1)
    else if word.startsWith "-" then carried program rest
    else if program = "timeout" then rest
    else word :: rest
termination_by words => words.length

/-- Sets the options at the start of an interpreter's arguments. Gives their letters and the arguments
that are left. -/
def startOptions : (fuel : Nat) → List String → Run (List Char × List String)
  | 0, words => return ([], words)
  | _, [] => return ([], [])
  | fuel + 1, word :: rest => do
    let take := fun (on : Bool) (letters : List Char) => do
      let rest ← setOptions on (letters.filter fun c => c != 'c' && c != 'l') rest
      let (more, rest) ← startOptions fuel rest
      return (letters ++ more, rest)
    match word.toList with
    | ['-'] | ['-', '-'] => return ([], rest)
    | '-' :: letters => take true letters
    | '+' :: letters => take false letters
    | _ => return ([], word :: rest)

/-- The script that an interpreter's arguments name. -/
def startScript (arguments : List String) : Run String := do
  let (letters, rest) ← startOptions (arguments.length + 1) arguments
  let scripted := letters.contains 'c'
  if rest.isEmpty && scripted then refuse
  else if letters.contains 's' && !scripted || rest.isEmpty then
    let i ← get
    set { i with input := [], arguments := rest }
    return String.ofList i.input
  else
    let i ← get
    let source := rest.headD ""
    let named := if scripted then rest.drop 1 else rest
    set { i with name := named.headD i.name, arguments := named.drop 1 }
    if scripted then return source
    else match i.fileText? source with
      | some text => return text
      | none => refuse

mutual

/-- Carries out a command; `tested` tells that its failure is expected. -/
def evaluate : (fuel : Nat) → (tested : Bool) → Command → Run Nat
  | 0, _, _ => refuse
  | fuel + 1, tested, command => do
    if (← get).readsOnly then return 0
    let act := fun action => runLines fuel false 0 (String.toList action)
    let checked := fun status => do
      modify fun i => { i with status }
      if status != 0 && !tested && (← get).stopsOnFailure then throw (.exit status) else return status
    let branch := fun command => do
      match command with
      | .nothing => return 0
      | command => evaluate fuel tested command
    let status ← match command with
      | .nothing => pure (← get).status
      | .simple assignments words => do
        checked (← perform fuel tested assignments (← fieldsFor fuel words))
      | .redirected (.simple assignments words) redirections => do
        let fields ← fieldsFor fuel words
        match ← streamsFor fuel {} redirections with
        | none => if fields.head?.any specialCommands.contains then refuse else checked misuse
        | some streams =>
          if fields = ["exec"] then
            modify fun i => { i with input := streams.input.getD i.input }
            pure 0
          else checked (← streams.around (perform fuel tested assignments fields))
      | .redirected command redirections => do
        match ← streamsFor fuel {} redirections with
        | none => pure misuse
        | some streams => streams.around (evaluate fuel tested command)
      | .sequence first second => do
        discard (evaluate fuel tested first)
        evaluate fuel tested second
      | .background command => do
        let outer ← get
        set { outer with input := [] }
        let status ← inCopy act (evaluate fuel false command)
        modify fun i => { i with input := outer.input, job := some status }
        pure 0
      | .both first second => do
        let status ← evaluate fuel true first
        if status = 0 then evaluate fuel tested second else pure status
      | .either first second => do
        let status ← evaluate fuel true first
        if status = 0 then pure status else evaluate fuel tested second
      | .negated command => do
        let status ← evaluate fuel true command
        pure (if status = 0 then 1 else 0)
      | .pipe first second => do
        let outer ← get
        set { outer with written := "" }
        discard (inCopy act (evaluate fuel tested first))
        let i ← get
        set { i with written := outer.written, input := i.written.toList }
        let status ← inCopy act (evaluate fuel tested second)
        modify fun j => { j with input := i.input }
        checked status
      | .subshell command => do checked (← inCopy act (evaluate fuel tested command))
      | .choose test yes no => do
        if (← evaluate fuel true test) = 0 then branch yes else branch no
      | .loop wanted test body => do
        let loops := (← get).loops
        let status ← repeated fuel (loops + 1) 0 do
          if ((← evaluate fuel true test) == 0) = wanted then some <$> evaluate fuel tested body
          else return none
        modify fun i => { i with loops }
        pure status
      | .forEach name words body => do
        let items ← match words with
          | none => pure (← get).arguments
          | some words => fieldsFor fuel words
        let loops := (← get).loops
        let status ← forItems (loops + 1) (fun item => do
            assign name item
            some <$> evaluate fuel tested body) 0 items
        modify fun i => { i with loops }
        pure status
      | .select word branches => do
        let text := (joined (← expand (outputOf fuel) fuel word)).toList
        match ← chosen fuel text branches with
        | none => pure 0
        | some body => branch body
      | .define name body => do
        modify fun i => { i with functions := (name, body) :: i.functions.filter (·.1 != name) }
        pure 0
    modify fun i => { i with status }
    let i ← get
    if i.outerTraps.isNone && !i.pending.isEmpty then
      set { i with pending := [] }
      i.pending.forM fun action => discard (act action)
      modify fun i => { i with status }
    return status

/-- Carries out the lines of a script after those that came to a status. -/
def runLines : (fuel : Nat) → (tested : Bool) → (status : Nat) → List Char → Run Nat
  | 0, _, _, _ => refuse
  | fuel + 1, tested, status, s =>
    match nextLine s with
    | .ended => return status
    | .senseless => refuse
    | .command command rest => do
      let status ← evaluate fuel tested command
      runLines fuel tested status rest

/-- The output of a script, which a copy carries out. -/
def outputOf : (fuel : Nat) → String → Run String
  | 0, _ => refuse
  | fuel + 1, script => do
    let outer ← get
    set { outer with written := "" }
    let act := fun action => runLines fuel false 0 (String.toList action)
    let outputStatus ← inCopy act (runLines fuel false 0 script.toList)
    let i ← get
    set { i with written := outer.written, outputStatus }
    return i.written

/-- The fields that words come to. After some commands an assignment is a single field. -/
def fieldsFor : (fuel : Nat) → List Word → Run (List String)
  | 0, _ => refuse
  | fuel + 1, words => do
    modify fun i => { i with outputStatus := 0 }
    let binds := (words.head?.bind bareText?).any ["export", "readonly", "local"].contains
    let fields ← words.mapM fun word => do
      let pieces ← expand (outputOf fuel) fuel (withHome word)
      if binds && (assignment? word).isSome then return [joined pieces]
      else return fieldsOf (← separators) pieces
    return fields.flatten

/-- The streams after redirections. Nothing comes of one that cannot be opened. -/
def streamsFor : (fuel : Nat) → Streams → List Redirection → Run (Option Streams)
  | 0, _, _ => refuse
  | _, streams, [] => return some streams
  | fuel + 1, streams, r :: rest => do
    let target := joined (← expand (outputOf fuel) fuel r.target)
    match ← streams.redirected? r.descriptor r.kind target with
    | none => return none
    | some streams => streamsFor fuel streams rest

/-- The body of the first branch with a pattern that matches a text. -/
def chosen : (fuel : Nat) → List Char → List (List Word × Command) → Run (Option Command)
  | 0, _, _ => refuse
  | _, _, [] => return none
  | fuel + 1, text, (patterns, body) :: rest => do
    let fits ← patterns.anyM fun pattern => do
      let pieces ← expand (outputOf fuel) fuel pattern
      return matchesAll (pieces.flatMap Piece.marked) text
    if fits then return some body else chosen fuel text rest

/-- Binds variables in order. -/
def bindAll : (fuel : Nat) → List (String × Word) → Run Unit
  | 0, _ => refuse
  | _, [] => return ()
  | fuel + 1, (name, word) :: rest => do
    assign name (joined (← expand (outputOf fuel) fuel (withHome word)))
    bindAll fuel rest

/-- Carries out a simple command, given by its fields. -/
def perform : (fuel : Nat) → (tested : Bool) → List (String × Word) → List String → Run Nat
  | 0, _, _, _ => refuse
  | fuel + 1, tested, assignments, fields => do
    match fields with
    | [] =>
      bindAll fuel assignments
      return (← get).outputStatus
    | name :: arguments =>
      let run := do
        match (← get).functions.lookup name with
        | some body => inFunction arguments (evaluate fuel tested body)
        | none =>
          if specialCommands.contains name then call fuel tested name arguments
          else tolerant (call fuel tested name arguments)
      if assignments.isEmpty then run
      else if specialCommands.contains name && name != "exec" then do
        bindAll fuel assignments
        run
      else withBindings (assignments.map (·.1)) (bindAll fuel assignments) run

/-- Runs a command of a name that is not a function. -/
def call : (fuel : Nat) → (tested : Bool) → (name : String) → List String → Run Nat
  | 0, _, _, _ => refuse
  | fuel + 1, tested, name, arguments => do
    match name with
    | "eval" => runLines fuel tested 0 (" ".intercalate arguments).toList
    | "." =>
      match arguments with
      | [] => return 0
      | path :: _ =>
        let i ← get
        match if path.toList.contains '/' then i.fileText? path else none with
        | none => refuse
        | some text =>
          tryCatch (runLines fuel tested 0 text.toList) fun
            | .leaveFunction status => return status
            | departure => throw departure
    | "exec" =>
      match arguments with
      | [] => return 0
      | program :: arguments =>
        let status ← start fuel program arguments
        if (program? program).isSome then modify fun i => { i with traps := [] }
        throw (.exit status)
    | "command" =>
      match arguments with
      | [] => return 0
      | "-v" :: names | "-V" :: names =>
        let i ← get
        return if names.all (isKnown i) then 0 else unknownCommand
      | "-p" :: name :: arguments | "--" :: name :: arguments | name :: arguments =>
        tolerant (call fuel tested name arguments)
    | "type" =>
      let i ← get
      return if arguments.all (isKnown i) then 0 else unknownCommand
    | "kill" => kill fuel arguments
    | name =>
      match builtin? name with
      | some run => run arguments
      | none => awaited (start fuel name arguments)

/-- Runs an installed program. -/
def start : (fuel : Nat) → (program : String) → List String → Run Nat
  | 0, _, _ => refuse
  | fuel + 1, program, arguments => do
    let act := fun action => runLines fuel false 0 (String.toList action)
    match program? program with
    | none =>
      let i ← get
      let isScript := program.toList.contains '/' && i.files.mode? program == some FileTree.programMode
      if isScript then
        inNew act do runLines fuel false 0 (← startScript (program :: arguments)).toList
      else return missingStatus i program
    | some name =>
      if ["sh", "dash", "bash"].contains name then
        inNew act do runLines fuel false 0 (← startScript arguments).toList
      else if name = "kill" then kill fuel arguments
      else if name = "env" then
        match (carried name arguments).dropWhile fun word => word.toList.contains '=' with
        | [] => return 0
        | program :: rest =>
          let bindings := (arguments.filter fun word => word.toList.contains '=').map nameAndValue
          let bound := do bindings.forM fun (name, value) => assign name (value.getD "")
          withBindings (bindings.map (·.1)) bound (start fuel program rest)
      else if ["nohup", "nice", "timeout"].contains name then
        match carried name arguments with
        | [] => return if name = "nice" then 0 else 125
        | program :: rest => start fuel program rest
      else tolerant (runProgram name arguments)

/-- Sends a signal to processes. -/
def kill : (fuel : Nat) → List String → Run Nat
  | 0, _ => refuse
  | fuel + 1, arguments => do
    match Signal.request? arguments with
    | none => return if arguments.head? = some "-l" then 0 else misuse
    | some (signal, processes) =>
      processes.foldlM (fun status text => do
        let i ← get
        match Signal.natural? text with
        | none => refuse
        | some n =>
          if n = i.process then discard (receive fuel signal); return status
          else return if n = Interpreter.jobProcess && i.job.isSome then status else 1) 0

/-- Takes a signal. -/
def receive : (fuel : Nat) → (signal : Nat) → Run Nat
  | 0, _ => refuse
  | fuel + 1, signal => do
    let i ← get
    match (i.outerTraps.getD i.traps).lookup (toString signal) with
    | some action =>
      if signal = Signal.unstoppable then throw (.killed signal)
      else
        if i.outerTraps.isSome then set { i with pending := i.pending ++ [action] }
        else
          discard (runLines fuel false 0 action.toList)
          modify fun j => { j with status := i.status }
        return 0
    | none => if Signal.harmless.contains signal then return 0 else throw (.killed signal)

end

end CommandVerbs.Shell
