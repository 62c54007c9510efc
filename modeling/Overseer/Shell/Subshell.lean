import Overseer.Shell.State

/-!
# Shells as processes

A shell reads its lines and carries them out one after another. For some commands it
starts another shell, which is a process of its own, and waits for what becomes of it.
-/

namespace Overseer.Shell

/-! ## Lines -/

/-- Carries out the commands of a text, line by line. A text without any succeeds. -/
def runLines (interpreter : Interpreter) (isTested : Bool) (text : Octets) : Script Unit :=
  Script.iterate (fun (source, isEmpty) => do
    match { source with aliases := (← get).aliases }.nextLine with
    | .finished => do
      if isEmpty then Script.setStatus 0
      return .inr ()
    | .faulty fault => do
      modify fun state => { state with line := fault.line }
      Script.fail ("Syntax error: " ++ fault.cause.text)
    | .command none source => return .inl (source, isEmpty)
    | .command (some command) source => do
      interpreter.carryOut { isTested } command
      return .inl (source, false)) (({ rest := text.toList } : Source), true)

/-- Carries out the command line for a signal. It does not change the status, except by
leaving a function. -/
def runTrap (interpreter : Interpreter) (signal : Signal) : Script Unit := do
  let state ← get
  match state.traps.lookup signal with
  | none => return
  | some text => do
    set { state with trapStatus := some (state.trapStatus.getD state.status) }
    let ending ← Script.attempt (runLines interpreter false text)
    modify fun after => { after with trapStatus := state.trapStatus }
    match ending with
    | .ok () => Script.setStatus state.status
    | .error escape => do
      match escape with
      | .leave _ | .again _ => Script.setStatus state.status
      | _ => pure ()
      throw escape

/-- Carries out the command lines for the signals that have come. -/
def runTraps (interpreter : Interpreter) : Script Unit := do
  if (← get).traps.any fun trap => trap.1 ≠ 0 && !trap.2.isEmpty then
    for signal in (← Work.takeSignals).mergeSort do runTrap interpreter signal

/-- Carries out the command line that is kept for the end of the shell. It changes the
status only by an exit of its own. -/
def runExitTrap (interpreter : Interpreter) : Script Unit := do
  let state ← get
  match state.traps.lookup 0 with
  | none => return
  | some text => do
    set { state with traps := state.traps.filter (·.1 ≠ 0), trapStatus := some state.status }
    match ← Script.attempt (runLines interpreter false text) with
    | .error .exit | .error .fault => return
    | _ => Script.setStatus state.status

/-- Does a script as the whole of a shell, and gives the status that it ends with. -/
def runShell (interpreter : Interpreter) (script : Script Unit) (state : State) : Work Nat := do
  let (_, state) ← script.run.run state
  let (_, state) ← (runExitTrap interpreter).run.run state
  return state.status

/-! ## Children -/

/-- Forgets one command whose status was asked for, as happens before others are started. -/
def forgetJob : Script Unit :=
  modify fun state => { state with jobs := state.jobs.eraseP fun job => job.wasAsked }

/-- Starts a child that does a script as a shell, after some work of its own. -/
def forkShell (interpreter : Interpreter) (inBackground : Bool) (prepare : Work Unit)
    (script : Script Unit) : Script ProcessId := do
  let state ← get
  let trapped := state.traps.filter fun trap => trap.1 ≠ 0 && !trap.2.isEmpty
  Work.fork fun _ => Work.toCourse do
    for (signal, _) in trapped do Work.dispose signal .standard
    if inBackground then do
      Work.dispose Signal.interrupt .ignored
      Work.dispose Signal.quit .ignored
    prepare
    runShell interpreter script state.forChild

/-! ## Programs -/

/-- How a shell words a fault of a file. -/
def faultText (missing : Octets) : FileFault → Octets
  | .missing | .notFolder => missing
  | fault => fault.text

/-- The status of a program that cannot be carried out. -/
def faultStatus : FileFault → Nat
  | .missing | .notFolder | .tooManyLinks | .nameTooLong => 127
  | _ => 126

/-- Becomes another program. -/
def becomeProgram (interpreter : Interpreter) (name : Octets) (arguments : List Octets) :
    Script α := do
  let state ← get
  for (signal, text) in state.traps do
    if signal ≠ 0 && !text.isEmpty then Work.dispose signal .standard
  let fault ← Work.becomeNamed interpreter.launch state.searchPath
    { name, arguments, environment := state.environment, folder := state.folder
      mask := state.mask }
  Script.warn (name ++ ": " ++ faultText "not found" fault)
  Script.exit (faultStatus fault)

/-! ## Waiting -/

/-- The status that the end of a process gives. -/
def statusOf : Departure → Nat
  | .exited status => status
  | .ended signal => 128 + signal

/-- Says what signal ended a process that was waited for. -/
def reportEnd : Departure → Script Unit
  | .ended signal => do
    if signal ≠ Signal.interrupt && signal ≠ Signal.brokenPipe then do
      let _ ← Work.write 2 (Signal.report signal ++ "\n")
  | .exited _ => return

/-- Waits for a child, and gives the status of its end. -/
def awaitChild (child : ProcessId) : Script Nat := do
  match ← Work.await (some child) false with
  | .child _ departure => do
    reportEnd departure
    return statusOf departure
  | _ => return 127

/-- Waits for children, and gives the status of the last. -/
def awaitAll : List ProcessId → Script Nat
  | [] => return 0
  | [child] => awaitChild child
  | child :: rest => do
    let _ ← awaitChild child
    awaitAll rest

/-- Remembers processes in the background. A command that has ended and whose status was
asked for gives its place to another one. -/
def addJob (processes : List ProcessId) : Script Unit :=
  modify fun state =>
    let numbers := state.jobs.map (·.number)
    let number := ((List.range (numbers.length + 1)).map (· + 1)).find?
      (fun number => !numbers.contains number) |>.getD 1
    { state with
      jobs := ⟨number, processes.map (·, none), false⟩ :: state.jobs
      lastBackground := processes.getLast? }

/-! ## Output -/

/-- The lowest number for a stream that only the shell itself uses. -/
def privateNumber : Nat := 10

/-- Carries out a command in a child and gives what it writes, without the line ends at
its end. -/
def outputOf (interpreter : Interpreter) (command : Command) : Script Octets := do
  let (output, input) ← Work.pipe
  let before := (← Work.look).descriptors
  let reading := Work.freeNumber before privateNumber
  let writing := Work.freeNumber ((reading, output) :: before) privateNumber
  Work.arrange ((reading, output) :: (writing, input) :: before)
  forgetJob
  let child ← forkShell interpreter false
    (Work.arrange ((1, input) :: before.filter (·.1 ≠ 1)))
    (interpreter.carryOut { isLast := true } command)
  Work.arrange ((reading, output) :: before)
  let text ← Work.readAll reading
  Work.arrange before
  let status ← awaitChild child
  modify fun state => { state with innerStatus := status }
  let chars := (text.toOption.getD "").toList.filter (· ≠ '\x00')
  return String.ofList (chars.reverse.dropWhile (· = '\n')).reverse

end Overseer.Shell
