import Overseer.Shell.Builtins.Flow
import Overseer.Shell.Builtins.Jobs
import Overseer.Shell.Builtins.Names
import Overseer.Shell.Builtins.Output
import Overseer.Shell.Builtins.Place

/-!
# Carrying commands out

`step` carries a command out, given how the commands inside of it are; `carryOut` ties the
knot for commands up to some depth. Every command has a status, which says whether it
succeeded.
-/

namespace Overseer.Shell

def builtins : List Builtin :=
  [Builtin.succeeding ":" true, Builtin.succeeding "true" false, Builtin.failing,
   Builtin.leaving "break" .leave, Builtin.leaving "continue" .again, Builtin.returning,
   Builtin.exiting, Builtin.evaluating, Builtin.sourcing, Builtin.replacing, Builtin.exporting,
   Builtin.readOnly, Builtin.localVariables, Builtin.unset, Builtin.setting, Builtin.shift,
   Builtin.readOptions, Builtin.reading, Builtin.listJobs, Builtin.moving "fg",
   Builtin.moving "bg", Builtin.wait, Builtin.kill, Builtin.trap, Builtin.times, Builtin.aliasing,
   Builtin.unalias, Builtin.describing, Builtin.command, Builtin.hash, Builtin.changing "cd",
   Builtin.changing "chdir", Builtin.showing, Builtin.mask, Builtin.limit, Builtin.echo,
   Builtin.printf, Builtin.test, Builtin.bracket]

/-! ## Simple commands -/

/-- What the name of a command stands for. -/
inductive Callee
  | builtin (builtin : Builtin)
  | function (body : Command)
  | program

/-- A command whose name is known. -/
structure Call where
  callee : Callee
  /-- The fields expanded so far, with the name first. -/
  fields : List Octets
  /-- The words that are still to be expanded. -/
  words : List Word
  /-- Whether assignments last and failure ends the shell. -/
  isSpecial : Bool
  searchPath : Option Octets := none

def findCallee (state : State) (skipsFunctions : Bool) (name : Octets) : Callee :=
  match if skipsFunctions then none else state.functions.lookup name with
  | some body => .function body
  | none =>
    match builtins.find? (·.name = name) with
    | some builtin => .builtin builtin
    | none => .program

/-- Expands words up to the first that makes fields. -/
def firstFields (interpreter : Interpreter) : List Word → Script (List Octets × List Word)
  | [] => return ([], [])
  | word :: rest => do
    match ← expandFields interpreter word with
    | [] => firstFields interpreter rest
    | fields => return (fields, rest)

/-- Takes the options of the command that carries out another one. Gives the fields and
words of the other, and whether the standard search path is asked for; no fields if there
is no other. -/
def wrapped (interpreter : Interpreter) : (fuel : Nat) → (standard : Bool) → List Octets →
    List Word → Script (List Octets × List Word × Bool)
  | 0, standard, _, words => return ([], words, standard)
  | fuel + 1, standard, fields, words => do
    let (fields, words) ← if fields.isEmpty then firstFields interpreter words else pure (fields, words)
    match fields with
    | [] => return ([], [], standard)
    | field :: rest =>
      match field.toList with
      | ['-', '-'] =>
        if rest.isEmpty then do
          let (fields, words) ← firstFields interpreter words
          return (fields, words, standard)
        else return (rest, words, standard)
      | '-' :: letter :: letters =>
        if (letter :: letters).all (· = 'p') then wrapped interpreter fuel true rest words
        else return ([], words, standard)
      | _ => return (fields, words, standard)

/-- Finds out what the first field of a command stands for. -/
def findCall (interpreter : Interpreter) : (fuel : Nat) → Call → Script Call
  | 0, call => return call
  | fuel + 1, call => do
    match call.callee with
    | .builtin builtin =>
      if builtin.name = "command" then do
        let (fields, words, standard) ←
          wrapped interpreter (call.fields.length + call.words.length + 1) false
            (call.fields.drop 1) call.words
        match fields with
        | [] => return call
        | name :: _ => do
          let callee := findCallee (← get) true name
          findCall interpreter fuel
            { call with
              callee, fields, words
              searchPath := if standard then some standardSearchPath else call.searchPath }
      else return call
    | _ => return call

/-- Expands the words of a command. The arguments of some are assignments, which are not
split. -/
def remainingFields (interpreter : Interpreter) (call : Call) : Script (List Octets) := do
  let takesAssignments :=
    match call.callee with
    | .builtin builtin => builtin.takesAssignments
    | _ => false
  let fields ← call.words.mapM fun word => do
    match if takesAssignments then word.assignment? else none with
    | some (name, value) =>
      return [name ++ "=" ++ (← expandText interpreter Purpose.forValue value)]
    | none => expandFields interpreter word
  return call.fields ++ fields.flatten

/-- Makes the assignments before a command: to last, or only for the command. Gives them as
they were written out. -/
def makeAssignments (interpreter : Interpreter) (lasts exports : Bool) :
    List (Octets × Word) → Script (List Octets)
  | [] => return []
  | (name, word) :: rest => do
    let value ← expandText interpreter Purpose.forValue word
    if !lasts then Builtin.keep name
    Script.assign name value
    if exports then
      modify fun state =>
        state.setVariable name
          { (state.bindings.lookup name).getD default with isExported := true }
    return (name ++ "=" ++ value) :: (← makeAssignments interpreter lasts exports rest)

/-- Shows a command before it is carried out, if that is asked for. -/
def showCommand (words : List Octets) : Script Unit := do
  let state ← get
  if state.has 'x' && !words.isEmpty then do
    let _ ← Work.write 2 (state.value "PS4" ++ " ".intercalate words ++ "\n")

/-- The number of function calls that may stand around a command. -/
def functionLimit : Nat := 1000

/-- Carries out the body of a function with arguments of its own. -/
def callFunction (interpreter : Interpreter) (surroundings : Surroundings) (body : Command)
    (arguments : List Octets) : Script Unit := do
  let state ← get
  if functionLimit ≤ state.functionDepth then
    Script.fail
      ("Maximum function recursion depth (" ++ Nat.repr functionLimit ++ ") reached")
  else do
    set
      { state with
        arguments, optionPlace := {}, loopDepth := 0, functionDepth := state.functionDepth + 1 }
    let ending ←
      Script.attempt (interpreter.carryOut { isTested := surroundings.isTested } body)
    modify fun after =>
      { after with
        arguments := state.arguments, optionPlace := state.optionPlace
        loopDepth := state.loopDepth, functionDepth := state.functionDepth }
    match ending with
    | .ok () | .error .return => return
    | .error escape => throw escape

/-- Carries out a command of the shell. If it is not special, its failure is only a
status. -/
def callBuiltin (interpreter : Interpreter) (surroundings : Surroundings) (isSpecial : Bool)
    (builtin : Builtin) (arguments : List Octets) : Script Unit := do
  let outer := (← get).commandName
  modify fun state => { state with commandName := some builtin.name }
  let ending ← Script.attempt (builtin.run interpreter surroundings arguments)
  modify fun state => { state with commandName := outer }
  match ending with
  | .ok status => Script.setStatus status
  | .error .fault => if isSpecial then throw .fault
  | .error escape => throw escape

/-- Carries out a program in a child, or in the place of a shell that has nothing else to
do. -/
def callProgram (interpreter : Interpreter) (surroundings : Surroundings) (name : Octets)
    (arguments : List Octets) : Script Unit := do
  let state ← get
  let found := (← Work.tree).findProgram state.folder state.searchPath name
  match if name.contains '/' then .ok ("", 0) else found with
  | .error fault => do
    Script.warn (name ++ ": " ++ faultText "not found" fault)
    Script.setStatus 127
  | .ok _ =>
    if surroundings.isLast && state.traps.isEmpty then becomeProgram interpreter name arguments
    else do
      forgetJob
      let child ← forkShell interpreter false (pure ()) (becomeProgram interpreter name arguments)
      Script.setStatus (← awaitChild child)

/-- Carries out a command whose words are expanded, with its assignments. -/
def carryOutCall (interpreter : Interpreter) (surroundings : Surroundings) (call : Call)
    (assignments : List (Octets × Word)) (fields : List Octets) : Script Unit := do
  let exports :=
    !call.isSpecial ||
      match call.callee with
      | .builtin builtin => builtin.name = "exec" && 1 < fields.length
      | _ => false
  let written ← makeAssignments interpreter call.isSpecial exports assignments
  showCommand (written ++ fields)
  match call.callee with
  | .builtin builtin =>
    callBuiltin interpreter surroundings call.isSpecial builtin (fields.drop 1)
  | .function body => callFunction interpreter surroundings body (fields.drop 1)
  | .program => do
    let state ← get
    match call.searchPath with
    | none => callProgram interpreter surroundings (fields.headD "") (fields.drop 1)
    | some path => do
      set (state.setVariable "PATH" { value := some path, isExported := true })
      Script.andThen (callProgram interpreter surroundings (fields.headD "") (fields.drop 1))
        (modify fun after =>
          match state.bindings.lookup "PATH" with
          | some content => after.setVariable "PATH" content
          | none => after.dropVariable "PATH")

/-- Carries out a simple command. Without words it only makes its assignments, and has the
status of the last command in one of its expansions. -/
def simple (interpreter : Interpreter) (surroundings : Surroundings)
    (assignments : List (Octets × Word)) (words : List Word) (redirects : List Redirect) :
    Script Unit := do
  Work.pause
  modify fun state => { state with innerStatus := 0 }
  match ← firstFields interpreter words with
  | ([], _) =>
    let assign : Script Unit := do
      let written ← makeAssignments interpreter true false assignments
      showCommand written
      Script.setStatus (← get).innerStatus
    withRedirects interpreter redirects assign
  | (fields, rest) => do
    let callee := findCallee (← get) false (fields.headD "")
    let isSpecial :=
      match callee with
      | .builtin builtin => builtin.isSpecial
      | _ => false
    let call ← findCall interpreter (fields.length + rest.length + 1)
      { callee, fields, words := rest, isSpecial }
    let fields ← remainingFields interpreter call
    let lasts :=
      match call.callee with
      | .builtin builtin => builtin.name = "exec" && isSpecial
      | _ => false
    let targets ← redirects.mapM (expandRedirect interpreter)
    let (aside, isDone) ← redirect targets []
    if !isSpecial then modify fun state => { state with kept := [] :: state.kept }
    let script : Script Unit :=
      if isDone then carryOutCall interpreter surroundings call assignments fields
      else do
        Script.setStatus 2
        if isSpecial then throw .fault
    Script.andThen script do
      if !isSpecial then Builtin.bringBack
      if lasts && isDone then (letGo aside : Work Unit) else (putBack aside : Work Unit)

/-! ## Loops -/

/-- What comes after a part of a loop. -/
inductive LoopTurn
  | goOn
  | nextRound
  | finished

/-- Carries out a part of a loop. -/
def loopPart (script : Script Unit) : Script LoopTurn := do
  match ← Script.attempt script with
  | .ok () => return .goOn
  | .error (.leave levels) => if levels ≤ 1 then return .finished else throw (.leave (levels - 1))
  | .error (.again levels) => if levels ≤ 1 then return .nextRound else throw (.again (levels - 1))
  | .error escape => throw escape

/-- Carries out a script as a loop around what is inside of it. -/
def asLoop (script : Script Unit) : Script Unit := do
  let depth := (← get).loopDepth
  modify fun state => { state with loopDepth := depth + 1 }
  Script.andThen script (modify fun state => { state with loopDepth := depth })

/-- Repeats a body as long as a test comes out as asked for. The status is the one of the
last body. -/
def repeatWhile (onSuccess : Bool) (test body : Script Unit) : Script Unit :=
  asLoop <| Script.iterate (fun status => do
    Work.pause
    match ← loopPart test with
    | .nextRound => return .inl status
    | .finished => do
      Script.setStatus status
      return .inr ()
    | .goOn =>
      if ((← get).status = 0) ≠ onSuccess then do
        Script.setStatus status
        return .inr ()
      else do
        match ← loopPart body with
        | .finished => return .inr ()
        | _ => return .inl (← get).status) 0

/-- Carries out a body for one value of a variable after another. -/
def repeatFor (name : Octets) (values : List Octets) (body : Script Unit) : Script Unit :=
  asLoop <| Script.iterate (fun
    | ([], isFirst) => do
      if isFirst then Script.setStatus 0
      return .inr ()
    | (value :: rest, _) => do
      Work.pause
      Builtin.assignNamed name value
      match ← loopPart body with
      | .finished => return .inr ()
      | _ => return .inl (rest, false)) (values, true)

/-! ## Commands made of others -/

/-- Gives a process its place in a row of processes that each read what the one before
writes. -/
def joinStreams (before : Descriptors) (input output : Option Nat) : Work Unit := do
  let descriptors :=
    match input with
    | some stream => (0, stream) :: before.filter (·.1 ≠ 0)
    | none => before
  Work.arrange
    (match output with
    | some stream => (1, stream) :: descriptors.filter (·.1 ≠ 1)
    | none => descriptors)

/-- Leaves a process without anything to read. -/
def withoutInput : Work Unit := do
  match ← Work.openFile FileTree.root "/dev/null" .forReading 0 with
  | .ok stream => Work.place 0 stream
  | .error _ => return

/-- Starts the commands of a pipeline, the first of which reads from a given stream. Gives
the processes. -/
def startPipeline (interpreter : Interpreter) (surroundings : Surroundings) (inBackground : Bool)
    (before : Descriptors) : (input : Option Nat) → List Command → Script (List ProcessId)
  | _, [] => return []
  | input, command :: rest => do
    let (next, output) ←
      if rest.isEmpty then pure (none, none)
      else do
        let (output, input) ← Work.pipe
        pure (some output, some input)
    let number := Work.freeNumber before privateNumber
    let ends := [input, next, output].filterMap id
    Work.arrange (before ++ ((List.range ends.length).map (· + number)).zip ends)
    let prepare : Work Unit := do
      joinStreams before input output
      if inBackground && input.isNone then withoutInput
    let child ← forkShell interpreter inBackground prepare
      (interpreter.carryOut { surroundings with isLast := true } command)
    Work.arrange (before ++ (next.map fun stream => (number, stream)).toList)
    return child :: (← startPipeline interpreter surroundings inBackground before next rest)

def pipeline (interpreter : Interpreter) (surroundings : Surroundings) (inBackground : Bool)
    (parts : List Command) : Script Unit := do
  let before := (← Work.look).descriptors
  forgetJob
  let children ← startPipeline interpreter surroundings inBackground before none parts
  Work.arrange before
  if inBackground then do
    addJob children
    Script.setStatus 0
  else Script.setStatus (← awaitAll children)

/-- Redirects the streams of a shell that is only there for one command. -/
def redirectForGood (targets : List Target) : Script Unit := do
  let (aside, isDone) ← redirect targets []
  letGo aside
  if !isDone then do
    Script.setStatus 2
    throw .fault

/-- Carries out a command in a shell of its own. -/
def enclosed (interpreter : Interpreter) (surroundings : Surroundings) (body : Command)
    (redirects : List Redirect) : Script Unit := do
  let targets ← redirects.mapM (expandRedirect interpreter)
  forgetJob
  let child ← forkShell interpreter false (pure ()) do
    redirectForGood targets
    interpreter.carryOut { surroundings with isLast := true } body
  Script.setStatus (← awaitChild child)

/-- Starts a command that is not waited for. -/
def background (interpreter : Interpreter) (body : Command) (redirects : List Redirect) :
    Script Unit := do
  let targets ← redirects.mapM (expandRedirect interpreter)
  forgetJob
  let child ← forkShell interpreter true withoutInput do
    redirectForGood targets
    interpreter.carryOut { isLast := true } body
  addJob [child]
  Script.setStatus 0

/-- Whether one of some words, taken as patterns, covers a text. -/
def coversAny (interpreter : Interpreter) (text : Octets) : List Word → Script Bool
  | [] => return false
  | word :: rest => do
    let glob ← expandPattern interpreter word
    if Glob.covers glob text.toList then return true else coversAny interpreter text rest

/-- Carries out the first branch with a pattern that covers a text. -/
def matching (interpreter : Interpreter) (surroundings : Surroundings) (subject : Octets) :
    List (List Word × Command) → Script Unit
  | [] => Script.setStatus 0
  | (patterns, body) :: rest => do
    if ← coversAny interpreter subject patterns then
      match body with
      | .nothing => Script.setStatus 0
      | body => interpreter.carryOut surroundings body
    else matching interpreter surroundings subject rest

/-- Ends the shell after a failure that nobody looks at, if that is asked for. -/
def checkFailure (surroundings : Surroundings) : Script Unit := do
  let state ← get
  if state.status ≠ 0 && state.has 'e' && !surroundings.isTested then throw .exit

/-! ## All commands -/

/-- Carries out a command, given how the ones inside of it are. -/
def carryOutParts (interpreter : Interpreter) (surroundings : Surroundings) : Command → Script Unit
  | .nothing => return
  | .simple line assignments words redirects => do
    modify fun state => { state with line }
    simple interpreter surroundings assignments words redirects
    checkFailure surroundings
  | .pipeline parts inBackground => do
    pipeline interpreter surroundings inBackground parts
    checkFailure surroundings
  | .sequence first second => do
    interpreter.carryOut { surroundings with isLast := false } first
    interpreter.carryOut surroundings second
  | .both first second => do
    interpreter.carryOut { isTested := true } first
    if (← get).status = 0 then interpreter.carryOut surroundings second
  | .either first second => do
    interpreter.carryOut { isTested := true } first
    if (← get).status ≠ 0 then interpreter.carryOut surroundings second
  | .negated command => do
    interpreter.carryOut { isTested := true } command
    modify fun state => { state with status := if state.status = 0 then 1 else 0 }
  | .choice test yes no => do
    interpreter.carryOut { isTested := true } test
    match decide ((← get).status = 0), no with
    | true, _ => interpreter.carryOut surroundings yes
    | false, .nothing => Script.setStatus 0
    | false, no => interpreter.carryOut surroundings no
  | .matching subject branches => do
    let subject ← expandText interpreter Purpose.forText subject
    matching interpreter surroundings subject branches
  | .loop onSuccess test body =>
    repeatWhile onSuccess (interpreter.carryOut { isTested := true } test)
      (interpreter.carryOut { surroundings with isLast := false } body)
  | .each name words body => do
    let values ← expandAllFields interpreter words
    repeatFor name values (interpreter.carryOut { surroundings with isLast := false } body)
  | .group line body redirects => do
    modify fun state => { state with line }
    withRedirects interpreter redirects
      (interpreter.carryOut { surroundings with isLast := false } body)
  | .enclosed line body redirects => do
    modify fun state => { state with line }
    enclosed interpreter surroundings body redirects
    checkFailure surroundings
  | .background line body redirects => do
    modify fun state => { state with line }
    background interpreter body redirects
  | .function name body => do
    modify fun state =>
      { state with functions := (name, body) :: state.functions.filter (·.1 ≠ name) }
    Script.setStatus 0

/-- Carries out a command, and what is to be done on the signals that come meanwhile. -/
def step (interpreter : Interpreter) (surroundings : Surroundings) (command : Command) :
    Script Unit := do
  if (← get).has 'n' then return
  runTraps interpreter
  carryOutParts interpreter surroundings command
  runTraps interpreter

/-- Ends a shell that has got lost in commands within commands. -/
def collapse : Script Unit := do
  let _ ← Work.send (← Work.look).self Signal.fault
  Script.exit (128 + Signal.fault)

/-- Carries out commands that are nested at most so deep. -/
def carryOut (launch : Launch) : (depth : Nat) → Surroundings → Command → Script Unit
  | 0, _, _ => collapse
  | depth + 1, surroundings, command =>
    step { carryOut := carryOut launch depth, launch } surroundings command

/-- The depth at which a shell gets lost. -/
def depthLimit : Nat := 30000

/-- What a shell is given that launches programs in a given way. -/
def interpreterFor (launch : Launch) : Interpreter :=
  { carryOut := carryOut launch depthLimit, launch }

end Overseer.Shell
