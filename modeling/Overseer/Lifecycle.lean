import Overseer.Attempt
import Overseer.Policy

/-!
# The life of a process

A `Lifecycle` follows one process from pending over its attempts to success or
failure. `launch` opens the next run. `complete` closes the open run and says
what comes next: the process succeeded, it is to be tried again, or it failed for
good. `completeLate` closes the open run once the task is decided, when nothing
comes next any more. An input that does not fit the open run is refused and
changes nothing.

Between a tolerated failure and the next launch a process is still running,
although no run of it is open.
-/

namespace Overseer

/-! ## Refusals -/

/-- Why a lifecycle refused an input. -/
inductive TransitionError
  | alreadyTerminal (process : ProcessName) (state : ProcessState)
  | attemptInFlight (process : ProcessName) (attempt : UInt32)
  | noOpenAttempt (process : ProcessName)
  | staleAttempt (process : ProcessName) (expected got : UInt32)
  deriving DecidableEq

def TransitionError.message : TransitionError → String
  | alreadyTerminal process state => "process '" ++ process ++ "' is already " ++ state.text
  | attemptInFlight process attempt =>
    "process '" ++ process ++ "' already has attempt " ++ Nat.repr attempt.toNat ++ " in flight"
  | noOpenAttempt process => "process '" ++ process ++ "' has no attempt in flight"
  | staleAttempt process expected got =>
    "stale completion for process '" ++ process ++ "': attempt " ++ Nat.repr got.toNat ++
      ", expected " ++ Nat.repr expected.toNat

/-- What comes after a completed attempt. -/
inductive Verdict
  | succeeded
  | retry (nextAttempt : UInt32) (restartDelay : Span)
  | permanentlyFailed
  deriving DecidableEq, Inhabited

/-! ## The lifecycle -/

structure Lifecycle where
  spec : ProcessSpec
  state : ProcessState := .pending
  /-- The completed attempts that failed. -/
  failures : UInt32 := 0
  /-- In the order of the launches. -/
  runs : List Run := []
  deriving DecidableEq, Inhabited

namespace Lifecycle

def name (life : Lifecycle) : ProcessName := life.spec.name

/-- The number of failures that end the process, at least one. -/
def failureLimit (life : Lifecycle) : UInt32 :=
  if life.spec.maxFailures = 0 then 1 else life.spec.maxFailures

/-- The run that is open, always the last one. -/
def openRun? (life : Lifecycle) : Option Run := life.runs.getLast?.filter (·.isOpen)

/-- The number of the attempt in flight. -/
def openAttempt? (life : Lifecycle) : Option UInt32 := life.openRun?.map (·.id.index)

/-- Opens the next run. -/
def launch (life : Lifecycle) (now : Instant) : Lifecycle × Except TransitionError Transition :=
  if life.state.isTerminal then (life, .error (.alreadyTerminal life.name life.state))
  else
    match life.openAttempt? with
    | some attempt => (life, .error (.attemptInFlight life.name attempt))
    | none =>
      let id : AttemptId := ⟨life.name, UInt32.ofNat life.runs.length⟩
      ({ life with runs := life.runs ++ [Run.launched id now], state := .running },
        .ok (Transition.launch id now))

/-- Closes the open run, if it has the given number. -/
def closeRun (life : Lifecycle) (index : UInt32) (report : Report) :
    Lifecycle × Except TransitionError Transition :=
  match life.openRun? with
  | none =>
    if life.state.isTerminal then (life, .error (.alreadyTerminal life.name life.state))
    else (life, .error (.noOpenAttempt life.name))
  | some run =>
    if run.id.index = index then
      ({ life with
          runs := life.runs.dropLast ++ [run.close report life.spec.minDuration] },
        .ok (Transition.closing ⟨life.name, index⟩ report))
    else (life, .error (.staleAttempt life.name run.id.index index))

/-! ### The wait before a retry -/

/-- Whether an attempt fell short of the least run time. -/
def isShortLived (life : Lifecycle) (report : Report) : Bool :=
  life.spec.minDuration.exceeds report.elapsed

/-- The wait before the retry of an attempt. Where retries are delayed, a short attempt
is followed by what it left of the least run time. -/
def restartDelay? (life : Lifecycle) (report : Report) (policy : MinDurationPolicy) :
    Option Span :=
  match policy with
  | .observe => some .zero
  | .delayRestart =>
    if life.isShortLived report then life.spec.minDuration.minus? report.elapsed
    else some .zero

/-- A short attempt took less than the least run time, from which it can be taken away. -/
theorem restartDelay?_isSome (life : Lifecycle) (report : Report) (policy : MinDurationPolicy) :
    (life.restartDelay? report policy).isSome = true := by
  cases policy with
  | observe => rfl
  | delayRestart =>
    rw [restartDelay?]
    split
    · next hshort =>
      have hwithin : report.elapsed.nanos ≤ life.spec.minDuration.nanos :=
        Nat.le_of_lt (of_decide_eq_true hshort)
      rw [Span.minus?, if_pos hwithin]
      rfl
    · rfl

def restartDelay (life : Lifecycle) (report : Report) (policy : MinDurationPolicy) : Span :=
  (life.restartDelay? report policy).get (life.restartDelay?_isSome report policy)

/-! ### Completions -/

/-- Closes the open run and settles what comes next. Every failure counts,
however short the attempt was. -/
def complete (life : Lifecycle) (index : UInt32) (report : Report) (policy : MinDurationPolicy) :
    Lifecycle × Except TransitionError (Transition × Verdict) :=
  match life.closeRun index report with
  | (unclosed, .error refusal) => (unclosed, .error refusal)
  | (closed, .ok transition) =>
    if report.outcome.isSuccess then
      ({ closed with state := .success }, .ok (transition, .succeeded))
    else
      let counted := { closed with failures := closed.failures + 1 }
      if counted.failureLimit ≤ counted.failures then
        ({ counted with state := .failed }, .ok (transition, .permanentlyFailed))
      else
        (counted, .ok (transition, .retry (index + 1) (counted.restartDelay report policy)))

/-- Closes the open run after the decision of the task. The run takes its
reported outcome; nothing is counted and nothing retried. -/
def completeLate (life : Lifecycle) (index : UInt32) (report : Report) :
    Lifecycle × Except TransitionError Transition :=
  match life.closeRun index report with
  | (unclosed, .error refusal) => (unclosed, .error refusal)
  | (closed, .ok transition) => ({ closed with state := transition.newState }, .ok transition)

end Lifecycle

end Overseer
