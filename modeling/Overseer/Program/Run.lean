import Overseer.Execution.Workshop
import Overseer.Program.CommandLine
import Overseer.Program.DryRun
import Overseer.TaskFile.Loading

/-!
# Runs

`CommandLine.run` carries a command line out in a workshop: it loads the task
file, lets the command line override the options of the file, and then reports on
the task or supervises it. The event log is opened before anything is started.
-/

namespace Overseer

/-- What a run comes to. -/
inductive RunResult
  /-- The report of a dry run. -/
  | report (text : String)
  | supervised (result : TaskResult)

/-- Why a run comes to nothing. -/
inductive RunError
  | taskFile (path : String) (cause : LoadError)
  | eventLog (path : String) (cause : ReadFault)
  | cutOff
  /-- The run would go on for ever. -/
  | hung
  | brokenOff

namespace RunError

/-- What could not be done. -/
def context? : RunError → Option String
  | taskFile path _ => some ("loading task file '" ++ path ++ "'")
  | eventLog path _ => some ("opening event log '" ++ path ++ "'")
  | cutOff | hung | brokenOff => none

/-- Why it could not be done, down to what that goes back to, where the wording is not left
to others. -/
def cause? : RunError → Option String
  | taskFile _ cause =>
    cause.message?.map fun message => ": ".intercalate (message :: cause.source?.toList)
  | eventLog .. => none
  | cutOff => some Ending.cutOffMessage
  | hung => none
  | brokenOff => some Ending.brokenOffMessage

/-- The text of an error that has a cause. -/
def message? (error : RunError) : Option String :=
  match error.context?, error.cause? with
  | some context, some cause => some (context ++ ": " ++ cause)
  | _, cause => cause

end RunError

/-- What the end of a supervision says about the run. -/
def RunResult.ofEnding : Option Ending → Except RunError RunResult
  | some (.finished result) => .ok (.supervised result)
  | some .cutOff => .error .cutOff
  | some .hung | none => .error .hung
  | some .brokenOff => .error .brokenOff

namespace CommandLine

/-- The options of a task file, with those of the command line in their place. -/
def override (line : CommandLine) (options : SupervisorOptions) : SupervisorOptions :=
  { options with
    scheduling.counting := line.counting.getD options.scheduling.counting
    scheduling.minDuration := line.minDuration.getD options.scheduling.minDuration }

/-- Opens the event log, which is made if it is missing. -/
def openEventLog (line : CommandLine) (workshop : Workshop) : Except RunError Workshop :=
  match line.events with
  | none => .ok workshop
  | some path =>
    match workshop.tree.openText workshop.folder path with
    | .ok (tree, node) =>
      .ok { workshop with machine := { workshop.machine with tree }, eventLog := some node }
    | .error fault => .error (.eventLog path fault)

/-- Carries a command line out in a workshop. -/
def run (line : CommandLine) (workshop : Workshop) : Except RunError RunResult × Workshop :=
  match TaskFile.load workshop.tree workshop.folder line.task with
  | .error cause => (.error (.taskFile line.task cause), workshop)
  | .ok file =>
    let options := line.override file.options
    if line.dryRun then (.ok (.report (DryRun.text file.task options)), workshop)
    else
      match line.openEventLog workshop with
      | .error error => (.error error, workshop)
      | .ok workshop =>
        let (ending, workshop) :=
          Session.supervise Workshop.attemptEnvironment file.task options 0 workshop
        (RunResult.ofEnding ending, workshop)

end CommandLine

end Overseer
