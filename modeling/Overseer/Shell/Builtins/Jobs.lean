import Overseer.Shell.Builtins.Basic

/-!
# Commands about other processes

Waiting for the commands in the background, listing them, sending signals, and saying what
is to be done when one comes.
-/

namespace Overseer.Shell.Builtin

/-! ## Jobs -/

/-- Remembers how a process ended. -/
def noteDeparture (process : ProcessId) (departure : Departure) : Script Unit :=
  modify fun state =>
    { state with
      jobs := state.jobs.map fun job =>
        { job with
          processes := job.processes.map fun entry =>
            if entry.1 = process then (process, some departure) else entry } }

/-- Remembers which of the processes in the background have ended by now. -/
def noteAll : Script Unit := do
  for job in (← get).jobs do
    for (process, departure) in job.processes do
      if departure.isNone then
        if !(← Work.send process 0) then
          match ← Work.await (some process) false with
          | .child _ departure => noteDeparture process departure
          | _ => noteDeparture process (.exited 127)

/-- Whether some process of a job goes on. -/
def isRunning (job : Job) : Bool := job.processes.any (·.2.isNone)

/-- The status of a job that has ended. -/
def jobStatus (job : Job) : Nat := ((job.processes.getLast?.bind (·.2)).map statusOf).getD 0

/-- The job with a number, or the one that is meant by a sign. -/
def job (word : Octets) : Script Job := do
  let state ← get
  let found :=
    match word.toList with
    | ['%'] | ['%', '%'] | ['%', '+'] => state.jobs.head?
    | ['%', '-'] => state.jobs[1]?
    | '%' :: digits => do
      let number ← naturalOf? digits
      state.jobs.find? (·.number = number)
    | _ => none
  match found with
  | some job => return job
  | none => Script.fail ("No such job: " ++ word)

/-- What has become of a job, in words. -/
def jobText (job : Job) : Octets :=
  if isRunning job then "Running"
  else
    match job.processes.getLast?.bind (·.2) with
    | some (.ended signal) => Signal.report signal
    | some (.exited 0) => "Done"
    | some (.exited status) => "Done(" ++ Nat.repr status ++ ")"
    | none => ""

/-- The line that shows a job. -/
def jobLine (state : State) (showsProcess : Bool) (job : Job) : Octets :=
  let mark :=
    if (state.jobs.head?.map (·.number)) = some job.number then "+"
    else if (state.jobs[1]?.map (·.number)) = some job.number then "-"
    else " "
  let process :=
    if showsProcess then (job.processes.head?.map fun entry => Nat.repr entry.1 ++ " ").getD ""
    else ""
  let text := "[" ++ Nat.repr job.number ++ "] " ++ mark ++ " " ++ process ++ jobText job
  text ++ String.ofList (List.replicate (max 1 (33 - text.length)) ' ') ++ "\n"

def listJobs : Builtin where
  name := "jobs"
  run _ _ arguments := do
    let (options, operands) ← options [('l', false), ('p', false)] arguments
    noteAll
    let state ← get
    let jobs ← if operands.isEmpty then pure state.jobs else operands.mapM job
    let line (job : Job) : Octets :=
      match options.getLast? with
      | some ('p', _) => (job.processes.head?.map fun entry => Nat.repr entry.1 ++ "\n").getD ""
      | some _ => jobLine state true job
      | none => jobLine state false job
    let shown := (jobs.filter fun job => !isRunning job).map (·.number)
    modify fun state =>
      { state with jobs := state.jobs.filter fun job => !shown.contains job.number }
    say (String.join (jobs.map line)) 0

/-- Commands cannot be moved between the foreground and the background here. -/
def moving (name : Octets) : Builtin where
  name
  run _ _ arguments := do
    match ← operands arguments with
    | [] => Script.fail "No current job"
    | word :: _ => do
      let job ← job word
      Script.fail ("job " ++ Nat.repr job.number ++ " not created under job control")

/-! ## Waiting -/

/-- Waits for a process. Gives the signal if one came before the end. -/
def awaitProcess (interpreter : Interpreter) (reports : Bool) (process : ProcessId) :
    Script (Option Signal) := do
  match ← Work.await (some process) true with
  | .child _ departure => do
    if reports then reportEnd departure
    noteDeparture process departure
    return none
  | .noChild => do
    noteDeparture process (.exited 127)
    return none
  | .interrupted => do
    let signals ← Work.takeSignals
    let signal := signals.getLastD 0
    Script.setStatus (128 + signal)
    for signal in signals.mergeSort do runTrap interpreter signal
    return some signal

/-- Waits for processes as long as no signal comes. -/
def awaitProcesses (interpreter : Interpreter) (reports : Bool) :
    List ProcessId → Script (Option Signal)
  | [] => return none
  | process :: rest => do
    match ← awaitProcess interpreter (reports && rest.isEmpty) process with
    | some signal => return some signal
    | none => awaitProcesses interpreter reports rest

def unfinished (job : Job) : List ProcessId :=
  job.processes.filterMap fun entry => if entry.2.isNone then some entry.1 else none

/-- Marks a job as one whose status was asked for. -/
def markAsked (number : Nat) : Script Unit :=
  modify fun state =>
    { state with
      jobs := state.jobs.map fun job =>
        if job.number = number then { job with wasAsked := true } else job }

/-- Waits for the jobs that words stand for, one after another. -/
def awaitJobs (interpreter : Interpreter) : (status : Nat) → List Octets → Script Nat
  | status, [] => return status
  | status, word :: rest => do
    let found ←
      if word.startsWith "%" then some <$> job word
      else do
        let process ← number word
        pure ((← get).jobs.find? fun job =>
          (job.processes.getLast?.map (·.1)) = some process)
    match found with
    | none => awaitJobs interpreter status rest
    | some job => do
      match ← awaitProcesses interpreter true (unfinished job) with
      | some signal => return 128 + signal
      | none => do
        markAsked job.number
        let ended := (← get).jobs.find? (·.number = job.number)
        awaitJobs interpreter (jobStatus (ended.getD job)) rest

def wait : Builtin where
  name := "wait"
  run interpreter _ arguments := do
    match ← operands arguments with
    | [] => do
      match ← awaitProcesses interpreter false ((← get).jobs.flatMap unfinished) with
      | some signal => return 128 + signal
      | none => do
        for job in (← get).jobs do markAsked job.number
        return 0
    | words => awaitJobs interpreter 127 words

/-! ## Signals -/

/-- The signal with a number or a name. -/
def signal? (least : Nat) (word : Octets) : Option Signal :=
  match naturalOf? word.toList with
  | some number => if number < 65 then some number else none
  | none => if least = 0 && word.toUpper = "EXIT" then some 0 else Signal.ofName? word

def killUsage : Octets :=
  "Usage: kill [-s sigspec | -signum | -sigspec] [pid | job]... or\nkill -l [exitstatus]"

/-- The names of all signals, or of one that is given by its number or a status. -/
def listSignals : List Octets → Script Nat
  | [] => say ("0\n" ++ String.join (Signal.names.map (· ++ "\n"))) 0
  | word :: _ => do
    let given ← number word
    let signal := if 128 < given then given - 128 else given
    if 0 < signal && signal < 65 then say (Signal.name signal ++ "\n") 0
    else Script.fail ("invalid signal number or exit status: " ++ word)

/-- Sends a signal to what words stand for. -/
def sendAll (signal : Signal) : (status : Nat) → List Octets → Script Nat
  | status, [] => return status
  | status, word :: rest => do
    let target : Int ←
      if word.startsWith "%" then do
        let job ← job word
        pure (Int.negOfNat ((job.processes.head?.map (·.1)).getD 0))
      else if word.startsWith "-" then do
        let number ← number (word.drop 1).toString
        pure (Int.negOfNat number)
      else Int.ofNat <$> number word
    if ← Work.send target signal then sendAll signal status rest
    else do
      Script.warn "No such process\n"
      sendAll signal 1 rest

def kill : Builtin where
  name := "kill"
  run _ _ arguments := do
    match arguments with
    | [] => Script.fail killUsage
    | first :: rest =>
      let early := if first.startsWith "-" then signal? 1 (first.drop 1).toString else none
      match early with
      | some signal => if rest.isEmpty then Script.fail killUsage else sendAll signal 0 rest
      | none => do
        let (options, words) ← options [('l', false), ('s', true)] arguments
        if options.any (·.1 = 'l') then listSignals words
        else do
          let signal ←
            match (options.filter (·.1 = 's')).getLast? with
            | none => pure Signal.terminate
            | some (_, word) =>
              match signal? 1 word with
              | some signal => pure signal
              | none => Script.fail ("invalid signal number or name: " ++ word)
          if words.isEmpty then Script.fail killUsage else sendAll signal 0 words

/-- Says what is to be done on a signal; nothing special if there is no command line. -/
def setTrap (signal : Signal) (action : Option Octets) : Script Unit := do
  modify fun state =>
    { state with
      traps := (state.traps.filter (·.1 ≠ signal)) ++ (action.map (signal, ·)).toList }
  if signal ≠ 0 && !(← get).deaf.contains signal then
    match action with
    | none => Work.dispose signal .standard
    | some "" => Work.dispose signal .ignored
    | some _ => Work.dispose signal .caught

def setTraps (action : Option Octets) : List Octets → Script Nat
  | [] => return 0
  | word :: rest => do
    match signal? 0 word with
    | none => do
      complain ("trap: " ++ word ++ ": bad trap")
      return 1
    | some signal => do
      setTrap signal action
      setTraps action rest

def trap : Builtin where
  name := "trap"
  isSpecial := true
  run _ _ arguments := do
    match ← operands arguments with
    | [] => do
      let traps := (← get).traps.mergeSort fun a b => a.1 ≤ b.1
      let line (trap : Signal × Octets) : Octets :=
        "trap -- " ++ quoted trap.2 ++ " " ++ Signal.name trap.1 ++ "\n"
      say (String.join (traps.map line)) 0
    | [word] => setTraps none [word]
    | "-" :: words => setTraps none words
    | action :: words =>
      if (naturalOf? action.toList).isSome then setTraps none (action :: words)
      else setTraps (some action) words

def times : Builtin where
  name := "times"
  isSpecial := true
  run _ _ _ := say "0m0.000000s 0m0.000000s\n0m0.000000s 0m0.000000s\n" 0

end Overseer.Shell.Builtin
