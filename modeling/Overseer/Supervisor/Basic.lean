import Overseer.EventLog.Basic
import Overseer.Schedule.Basic

/-!
# Supervisors

A `Supervisor` is a schedule with the status history of its task. It takes
`Message`s from outside and answers each with a `Reaction`: the commands for the
executor, the events to report, and whether more messages are expected.

The history starts with `ACTIVE` and ends with the decision. More messages are
expected as long as the task is undecided or an attempt is in flight.
-/

namespace Overseer

/-- What a supervisor is told. -/
inductive Message
  | completed (id : AttemptId) (report : Report)
  /-- The attempt could not be started at all. -/
  | startFailed (id : AttemptId) (reason : String)
  | shutdown
  deriving DecidableEq, Inhabited

/-- What the executor is to do. -/
inductive Command
  | dispatch (attempts : List Attempt)
  | stop (attempts : List AttemptId)
  deriving DecidableEq, Inhabited

/-- The answer to a message. -/
structure Reaction where
  commands : List Command := []
  events : List Event := []
  keepRunning : Bool
  deriving DecidableEq, Inhabited

/-- The outcome of a supervision. -/
structure TaskResult where
  status : TaskStatus
  statuses : List StatusEntry
  /-- The runs of each launched process, sorted by name. -/
  processes : List (ProcessName × List Run)
  deriving DecidableEq, Inhabited

namespace TaskResult

/-- The reason of the failure, if there is one. -/
def failureReason? (result : TaskResult) : Option FailureReason :=
  result.statuses.reverse.findSome? (·.reason)

def runsOf? (result : TaskResult) (process : ProcessName) : Option (List Run) :=
  result.processes.lookup process

def toJson (result : TaskResult) : Json :=
  .object [("task_state", result.status.toJson),
    ("statuses", .array (result.statuses.map (·.toJson))),
    ("processes", .object (result.processes.map fun (name, runs) =>
      (name, .array (runs.map (·.toJson)))))]

end TaskResult

/-- The entry that a decision adds to the history. -/
def Decision.statusEntry (decision : Decision) (now : Instant) : StatusEntry :=
  match decision with
  | .success => ⟨.success, now, none⟩
  | .failed reason => ⟨.failed, now, some reason⟩

/-- The commands that carry a step out. -/
def Step.commands (step : Step) : List Command :=
  (if step.launched.isEmpty then [] else [.dispatch step.launched]) ++
    (if step.toStop.isEmpty then [] else [.stop step.toStop])

structure Supervisor where
  schedule : Schedule
  statuses : List StatusEntry

namespace Supervisor

def initial (task : TaskSpec) (options : SchedulerOptions) : Supervisor where
  schedule := .initial task options
  statuses := []

/-! ## Views -/

def isStarted (supervisor : Supervisor) : Bool := !supervisor.statuses.isEmpty

def isDecided (supervisor : Supervisor) : Bool := supervisor.schedule.isDecided

/-- Whether more messages are expected. -/
def isBusy (supervisor : Supervisor) : Bool :=
  !supervisor.isDecided || !supervisor.schedule.inFlight.isEmpty

def result (supervisor : Supervisor) : TaskResult where
  status :=
    match supervisor.statuses.getLast? with
    | some entry => entry.status
    | none => .active
  statuses := supervisor.statuses
  processes := supervisor.schedule.records

/-! ## Operations -/

/-- Takes over the result of a schedule operation: its decision enters the
history, and all that changed is reported. -/
def follow (statuses : List StatusEntry) (now : Instant) (result : Schedule × Step) :
    Supervisor × Reaction :=
  let (schedule, step) := result
  let entries := (step.decision.map (·.statusEntry now)).toList
  let supervisor : Supervisor := ⟨schedule, statuses ++ entries⟩
  (supervisor,
    { commands := step.commands
      events := step.transitions.map .process ++ entries.map .task
      keepRunning := supervisor.isBusy })

/-- Marks the task active and launches what is ready, unless that was done
before. -/
def start (supervisor : Supervisor) (now : Instant) : Supervisor × Reaction :=
  if supervisor.isStarted then (supervisor, { keepRunning := supervisor.isBusy })
  else
    let active : StatusEntry := ⟨.active, now, none⟩
    let (started, reaction) :=
      follow (supervisor.statuses ++ [active]) now (supervisor.schedule.start now)
    (started, { reaction with events := .task active :: reaction.events })

/-- Takes a message. An attempt that could not be started counts as one that
failed at once. -/
def handle (supervisor : Supervisor) (message : Message) (now : Instant) :
    Supervisor × Reaction :=
  follow supervisor.statuses now <|
    match message with
    | .completed id report => supervisor.schedule.complete id report now
    | .startFailed id _ => supervisor.schedule.complete id (.notStarted now) now
    | .shutdown => supervisor.schedule.cancel

/-! ## With a clock -/

/-- Starts at the time of the clock, which is left alone if the supervisor was
started before. -/
def startWith (supervisor : Supervisor) (clock : Clock) : Supervisor × Reaction × Clock :=
  let (now, later) := clock.read
  let (started, reaction) := supervisor.start now
  (started, reaction, if supervisor.isStarted then clock else later)

/-- Takes a message at the time of the clock. -/
def handleWith (supervisor : Supervisor) (message : Message) (clock : Clock) :
    Supervisor × Reaction × Clock :=
  let (now, later) := clock.read
  let (next, reaction) := supervisor.handle message now
  (next, reaction, later)

end Supervisor

end Overseer
