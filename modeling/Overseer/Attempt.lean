import Overseer.Status
import Overseer.Task.Basic
import Overseer.Time.Stamp

/-!
# Attempts

Each execution of a process is an attempt, numbered from zero. An executor gets
an `Attempt` to carry out and answers with a `Report`; the supervisor keeps a
`Run` for each and announces every change of a run as a `Transition`.
-/

namespace Overseer

/-- The name of an attempt: its process and its number. -/
structure AttemptId where
  process : ProcessName
  index : UInt32
  deriving DecidableEq, Inhabited

/-- An attempt to carry out now. -/
structure Attempt where
  id : AttemptId
  cmdline : String
  minDuration : Span
  /-- The wait before the start; zero except for delayed retries. -/
  restartDelay : Span
  deriving DecidableEq, Inhabited

/-- The attempt with the given number at a process. -/
def Attempt.ofSpec (spec : ProcessSpec) (index : UInt32) (restartDelay : Span) : Attempt where
  id := ⟨spec.name, index⟩
  cmdline := spec.cmdline
  minDuration := spec.minDuration
  restartDelay

/-! ## Reports -/

/-- How an attempt went. -/
structure Report where
  outcome : Outcome
  startedAt : Instant
  endedAt : Instant
  deriving DecidableEq, Inhabited

namespace Report

/-- The run time; zero where the end comes before the start. -/
def elapsed (report : Report) : Span := report.startedAt.elapsed report.endedAt

/-- The report of an attempt that could not be started. -/
def notStarted (now : Instant) : Report := ⟨.noExitCode, now, now⟩

def toJson (report : Report) : Json :=
  .object [("outcome", report.outcome.toJson), ("started_at", .string report.startedAt.stamp),
    ("ended_at", .string report.endedAt.stamp)]

end Report

/-! ## Runs -/

/-- Where a run stands: still open, or closed by a report. -/
inductive RunPhase
  | inFlight (startedAt : Instant)
  | ended (report : Report) (metMinDuration : Bool)
  deriving DecidableEq, Inhabited

/-- The record of one attempt. -/
structure Run where
  id : AttemptId
  phase : RunPhase
  deriving DecidableEq, Inhabited

namespace Run

def launched (id : AttemptId) (now : Instant) : Run := ⟨id, .inFlight now⟩

/-- Closes a run with a report. -/
def close (run : Run) (report : Report) (minDuration : Span) : Run :=
  { run with phase := .ended report (minDuration.metBy report.elapsed) }

def isOpen (run : Run) : Bool :=
  match run.phase with
  | .inFlight _ => true
  | .ended .. => false

def state (run : Run) : ProcessState :=
  match run.phase with
  | .inFlight _ => .running
  | .ended report _ => report.outcome.runState

def startedAt (run : Run) : Instant :=
  match run.phase with
  | .inFlight now => now
  | .ended report _ => report.startedAt

def endedAt? (run : Run) : Option Instant :=
  match run.phase with
  | .inFlight _ => none
  | .ended report _ => some report.endedAt

def exitCode? (run : Run) : Option Int32 :=
  match run.phase with
  | .inFlight _ => none
  | .ended report _ => some report.outcome.exitCode

/-- Whether the attempt lasted for the least run time of its process. -/
def metMinDuration? (run : Run) : Option Bool :=
  match run.phase with
  | .inFlight _ => none
  | .ended _ met => some met

def toJson (run : Run) : Json :=
  .object [("process_name", .string run.id.process), ("attempt_index", .number run.id.index.toNat),
    ("state", run.state.toJson), ("started_at", .string run.startedAt.stamp),
    ("ended_at", Json.optional (fun ended => .string ended.stamp) run.endedAt?),
    ("exit_code", Json.optional (fun code => .number code.toInt) run.exitCode?),
    ("min_duration_met", Json.optional .bool run.metMinDuration?)]

end Run

/-! ## Transitions -/

/-- A change of the state of one run. -/
structure Transition where
  id : AttemptId
  oldState : ProcessState
  newState : ProcessState
  timestamp : Instant
  deriving DecidableEq, Inhabited

namespace Transition

def launch (id : AttemptId) (now : Instant) : Transition := ⟨id, .pending, .running, now⟩

def closing (id : AttemptId) (report : Report) : Transition :=
  ⟨id, .running, report.outcome.runState, report.endedAt⟩

def jsonFields (transition : Transition) : List (String × Json) :=
  [("process_name", .string transition.id.process),
    ("attempt_index", .number transition.id.index.toNat),
    ("old_state", transition.oldState.toJson), ("new_state", transition.newState.toJson),
    ("timestamp", .string transition.timestamp.stamp)]

end Transition

end Overseer
