import Overseer.Budget
import Overseer.Lifecycle
import Overseer.Precedence.Progress

/-!
# Schedules

A `Schedule` carries a task out in the small: it launches the processes that are
ready, in declaration order and within the concurrency limit, takes the
completions of their attempts in any order, retries what may be retried, and
makes the one decision of the task. Every operation gives a `Step` that lists
what it did.

The task fails at the first of these: a process that others wait for fails for
good, the failure budget is exceeded, or the task is cancelled. It succeeds when
no process is running and none can start any more. A decided schedule launches
nothing; it only records how the attempts in flight end.
-/

namespace Overseer

/-! ## Steps -/

/-- The final word on a task. -/
inductive Decision
  | success
  | failed (reason : FailureReason)
  deriving DecidableEq, Inhabited

/-- What one operation did. -/
structure Step where
  /-- The attempts to carry out, in the order of their launch. -/
  launched : List Attempt := []
  /-- The changes of runs, in order. -/
  transitions : List Transition := []
  /-- The processes that can no longer start. -/
  newlyBlocked : List ProcessName := []
  /-- The decision, in the step that made it. -/
  decision : Option Decision := none
  /-- The attempts in flight that are to be stopped. -/
  toStop : List AttemptId := []
  deriving DecidableEq, Inhabited

namespace Step

def launchedNames (step : Step) : List ProcessName := step.launched.map (·.id.process)

/-- Two steps taken one after the other. -/
def andThen (first second : Step) : Step where
  launched := first.launched ++ second.launched
  transitions := first.transitions ++ second.transitions
  newlyBlocked := first.newlyBlocked ++ second.newlyBlocked
  decision := first.decision.or second.decision
  toStop := first.toStop ++ second.toStop

end Step

/-! ## Schedules -/

/-- How a task is scheduled, where its declaration leaves it open. -/
structure SchedulerOptions where
  counting : FailureCounting := .processes
  minDuration : MinDurationPolicy := .observe
  deriving DecidableEq, Inhabited

structure Schedule where
  task : TaskSpec
  options : SchedulerOptions
  /-- One for each process, in declaration order. -/
  lifecycles : List Lifecycle
  progress : Progress
  budget : FailureBudget
  decision : Option Decision

namespace Schedule

/-- The schedule in which nothing has happened yet. -/
def initial (task : TaskSpec) (options : SchedulerOptions) : Schedule where
  task
  options
  lifecycles := task.processes.map fun spec => { spec }
  progress := {}
  budget := { limit := task.maxFailures, counting := options.counting }
  decision := none

/-! ## Views -/

def isDecided (schedule : Schedule) : Bool := schedule.decision.isSome

def lifecycle? (schedule : Schedule) (process : ProcessName) : Option Lifecycle :=
  schedule.lifecycles.find? (·.name = process)

/-- The state of a process; none for a name that is not declared. -/
def stateOf? (schedule : Schedule) (process : ProcessName) : Option ProcessState :=
  (schedule.lifecycle? process).map (·.state)

/-- The attempts in flight, in declaration order. -/
def inFlight (schedule : Schedule) : List AttemptId :=
  schedule.lifecycles.filterMap fun life => life.openAttempt?.map (⟨life.name, ·⟩)

/-- The runs of each process that was ever launched, sorted by name. -/
def records (schedule : Schedule) : List (ProcessName × List Run) :=
  let launched := schedule.lifecycles.filter fun life => !life.runs.isEmpty
  (launched.map fun life => (life.name, life.runs)).mergeSort fun a b => a.1 ≤ b.1

/-- The number of processes that are running. -/
def runningCount (schedule : Schedule) : Nat :=
  schedule.lifecycles.countP (·.state = .running)

/-- Whether a process may be launched as far as the constraints go. -/
def isReady (schedule : Schedule) (life : Lifecycle) : Bool :=
  life.state = .pending && schedule.progress.eligible schedule.task.precedence life.name &&
    !schedule.progress.isBlocked life.name

/-- Whether a process is running or may still be launched. -/
def isOutstanding (schedule : Schedule) (life : Lifecycle) : Bool :=
  match life.state with
  | .running => true
  | .pending => !schedule.progress.isBlocked life.name
  | .success | .failed => false

/-! ## Parts of a step -/

/-- Puts a lifecycle in the place of the one with its name. -/
def put (schedule : Schedule) (life : Lifecycle) : Schedule :=
  { schedule with
    lifecycles := schedule.lifecycles.map fun old => if old.name = life.name then life else old }

/-- Launches the next attempt of a process, which is announced under the given
number. A process that refuses is passed over. -/
def launch (schedule : Schedule) (now : Instant) (index : UInt32) (restartDelay : Span)
    (process : ProcessName) : Schedule × Step :=
  match schedule.lifecycle? process with
  | none => (schedule, {})
  | some life =>
    match life.launch now with
    | (unlaunched, .error _) => (schedule.put unlaunched, {})
    | (launched, .ok transition) =>
      (schedule.put launched,
        { launched := [Attempt.ofSpec life.spec index restartDelay]
          transitions := [transition] })

/-- The names of the ready processes, in declaration order. -/
def readyNames (schedule : Schedule) : List ProcessName :=
  (schedule.lifecycles.filter schedule.isReady).map (·.name)

/-- Whether so many running processes take all the slots that there are. -/
def isFull (schedule : Schedule) (running : Nat) : Bool :=
  schedule.task.maxConcurrency ≠ 0 && schedule.task.maxConcurrency.toNat ≤ running

/-- Launches the first attempts of the given processes until so many are running that no
slot is free. One that is passed over takes none. -/
def launchWhileFree (schedule : Schedule) (now : Instant) (running : Nat) :
    List ProcessName → Schedule × Step
  | [] => (schedule, {})
  | process :: rest =>
    if schedule.isFull running then (schedule, {})
    else
      let (launched, step) := schedule.launch now 0 .zero process
      let (final, more) := launched.launchWhileFree now (running + step.launched.length) rest
      (final, step.andThen more)

/-- Decides for success once nothing is outstanding. -/
def concludeSettled (schedule : Schedule) : Schedule × Step :=
  if schedule.isDecided || schedule.lifecycles.any schedule.isOutstanding then (schedule, {})
  else ({ schedule with decision := some .success }, { decision := some .success })

/-- Decides for failure and asks to stop what is in flight. -/
def fail (schedule : Schedule) (reason : FailureReason) : Schedule × Step :=
  ({ schedule with decision := some (.failed reason) },
    { decision := some (.failed reason), toStop := schedule.inFlight })

/-- Launches what is ready, then looks whether the task is done. -/
def advance (schedule : Schedule) (now : Instant) : Schedule × Step :=
  let (launched, step) :=
    schedule.launchWhileFree now schedule.runningCount schedule.readyNames
  let (final, conclusion) := launched.concludeSettled
  (final, step.andThen conclusion)

/-- The reason given when the failure of a process exceeds the budget. -/
def budgetReason (schedule : Schedule) (process : ProcessName) : FailureReason :=
  .budgetExceeded process schedule.budget.count schedule.budget.limit

/-- Follows up the verdict on a completed attempt. -/
def settle (schedule : Schedule) (process : ProcessName) (verdict : Verdict) (now : Instant) :
    Schedule × Step :=
  match verdict with
  | .succeeded =>
    advance
      { schedule with
        progress := schedule.progress.recordSuccess schedule.task.precedence process }
      now
  | .retry nextAttempt restartDelay =>
    let counted := { schedule with budget := schedule.budget.record false }
    if counted.budget.exceeded then counted.fail (counted.budgetReason process)
    else
      let (relaunched, step) := counted.launch now nextAttempt restartDelay process
      let (final, more) := relaunched.advance now
      (final, step.andThen more)
  | .permanentlyFailed =>
    let (progress, newlyBlocked) :=
      schedule.progress.recordFailure schedule.task.precedence process
    let counted := { schedule with progress, budget := schedule.budget.record true }
    let (final, step) :=
      if schedule.task.precedence.isPredecessor process then
        counted.fail (.dependencyFailed process)
      else if counted.budget.exceeded then counted.fail (counted.budgetReason process)
      else counted.advance now
    (final, { step with newlyBlocked })

/-! ## Operations -/

/-- Launches what is ready at the outset. -/
def start (schedule : Schedule) (now : Instant) : Schedule × Step :=
  if schedule.isDecided then (schedule, {}) else schedule.advance now

/-- Takes the completion of one attempt. A completion that fits no attempt in
flight changes nothing. -/
def complete (schedule : Schedule) (id : AttemptId) (report : Report) (now : Instant) :
    Schedule × Step :=
  match schedule.lifecycle? id.process with
  | none => (schedule, {})
  | some life =>
    if schedule.isDecided then
      match life.completeLate id.index report with
      | (unclosed, .error _) => (schedule.put unclosed, {})
      | (closed, .ok transition) => (schedule.put closed, { transitions := [transition] })
    else
      match life.complete id.index report schedule.options.minDuration with
      | (unclosed, .error _) => (schedule.put unclosed, {})
      | (closed, .ok (transition, verdict)) =>
        let (final, step) := (schedule.put closed).settle id.process verdict now
        (final, { step with transitions := transition :: step.transitions })

/-- Fails the task unless it is decided. -/
def cancel (schedule : Schedule) : Schedule × Step :=
  if schedule.isDecided then (schedule, {}) else schedule.fail .cancelled

end Schedule

end Overseer
