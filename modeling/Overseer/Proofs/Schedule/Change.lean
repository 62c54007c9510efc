import Overseer.Proofs.Lifecycle.Stages
import Overseer.Proofs.Schedule.Lookup
import Overseer.Proofs.Schedule.Run

/-!
# Changes of a schedule

Every operation takes a schedule through a few elementary changes: one process is
launched, one completion is followed up, or the task is decided. `Change` lists
them with what each needs and announces. A change that decides is made in one
piece with the completion that caused it, so that no schedule between two changes
is half decided. Invariants are proved once for each change.
-/

namespace Overseer

namespace Schedule

/-! ## Schedules after a completion -/

/-- Notes that the open attempt of `life` succeeded. -/
def noteSuccess (schedule : Schedule) (life : Lifecycle) (report : Report) : Schedule :=
  { schedule.put (life.succeeded report) with
    progress := schedule.progress.recordSuccess schedule.task.precedence life.name }

/-- Notes that the open attempt of `life` failed and is to be retried. -/
def noteRetry (schedule : Schedule) (life : Lifecycle) (report : Report) : Schedule :=
  { schedule.put (life.tolerated report) with budget := schedule.budget.record false }

/-- The processes that can no longer start once `process` failed for good. -/
def blockedBy (schedule : Schedule) (process : ProcessName) : List ProcessName :=
  (schedule.progress.recordFailure schedule.task.precedence process).2

/-- Notes that the open attempt of `life` was its last failure. -/
def noteFailure (schedule : Schedule) (life : Lifecycle) (report : Report) : Schedule :=
  { schedule.put (life.givenUp report) with
    progress := (schedule.progress.recordFailure schedule.task.precedence life.name).1
    budget := schedule.budget.record true }

/-- The schedule once `decision` is made. -/
def decide (schedule : Schedule) (decision : Decision) : Schedule :=
  { schedule with decision := some decision }

/-- What a decision for failure announces, with `closing` the transitions before it. -/
def failing (schedule : Schedule) (closing : List Transition) (blocked : List ProcessName)
    (reason : FailureReason) : Step where
  transitions := closing
  newlyBlocked := blocked
  decision := some (.failed reason)
  toStop := schedule.inFlight

section Fields

variable (schedule : Schedule) (life : Lifecycle) (report : Report) (decision : Decision)

@[simp] theorem noteSuccess_task : (schedule.noteSuccess life report).task = schedule.task := rfl
@[simp] theorem noteSuccess_options :
    (schedule.noteSuccess life report).options = schedule.options := rfl
@[simp] theorem noteSuccess_lifecycles : (schedule.noteSuccess life report).lifecycles =
    (schedule.put (life.succeeded report)).lifecycles := rfl
@[simp] theorem noteSuccess_budget :
    (schedule.noteSuccess life report).budget = schedule.budget := rfl
@[simp] theorem noteSuccess_decision :
    (schedule.noteSuccess life report).decision = schedule.decision := rfl
@[simp] theorem noteRetry_task : (schedule.noteRetry life report).task = schedule.task := rfl
@[simp] theorem noteRetry_options :
    (schedule.noteRetry life report).options = schedule.options := rfl
@[simp] theorem noteRetry_lifecycles : (schedule.noteRetry life report).lifecycles =
    (schedule.put (life.tolerated report)).lifecycles := rfl
@[simp] theorem noteRetry_progress :
    (schedule.noteRetry life report).progress = schedule.progress := rfl
@[simp] theorem noteRetry_budget :
    (schedule.noteRetry life report).budget = schedule.budget.record false := rfl
@[simp] theorem noteRetry_decision :
    (schedule.noteRetry life report).decision = schedule.decision := rfl
@[simp] theorem noteFailure_task : (schedule.noteFailure life report).task = schedule.task := rfl
@[simp] theorem noteFailure_options :
    (schedule.noteFailure life report).options = schedule.options := rfl
@[simp] theorem noteFailure_lifecycles : (schedule.noteFailure life report).lifecycles =
    (schedule.put (life.givenUp report)).lifecycles := rfl
@[simp] theorem noteFailure_budget :
    (schedule.noteFailure life report).budget = schedule.budget.record true := rfl
@[simp] theorem noteFailure_decision :
    (schedule.noteFailure life report).decision = schedule.decision := rfl
@[simp] theorem decide_task : (schedule.decide decision).task = schedule.task := rfl
@[simp] theorem decide_options : (schedule.decide decision).options = schedule.options := rfl
@[simp] theorem decide_lifecycles :
    (schedule.decide decision).lifecycles = schedule.lifecycles := rfl
@[simp] theorem decide_progress : (schedule.decide decision).progress = schedule.progress := rfl
@[simp] theorem decide_budget : (schedule.decide decision).budget = schedule.budget := rfl
@[simp] theorem decide_decision : (schedule.decide decision).decision = some decision := rfl

end Fields

/-- A retry touches one lifecycle only, which it closes and opens again. -/
theorem lifecycles_retried (schedule : Schedule) (life : Lifecycle) (report : Report)
    (now : Instant) :
    ((schedule.noteRetry life report).put ((life.tolerated report).opened now)).lifecycles =
      (schedule.put ((life.tolerated report).opened now)).lifecycles := by
  change ((schedule.put (life.tolerated report)).put _).lifecycles = _
  rw [put_put]
  rfl

end Schedule

/-! ## Changes -/

open Schedule in
/-- `Change op s step t`: in the course of `op`, the schedule `s` may turn into
`t`, which `step` announces. -/
inductive Change (op : Operation) : Schedule → Step → Schedule → Prop
  /-- A ready process is launched for the first time. -/
  | launch {s : Schedule} {life : Lifecycle} (now : Instant) (undecided : s.decision = none)
      (mem : life ∈ s.lifecycles) (ready : s.isReady life = true)
      (room : s.task.maxConcurrency = 0 ∨ s.runningCount < s.task.maxConcurrency.toNat) :
      Change op s
        { launched := [Attempt.ofSpec life.spec 0 .zero]
          transitions := [Transition.launch life.nextId now] }
        (s.put (life.opened now))
  | succeed {s : Schedule} {life : Lifecycle} {index : UInt32} {report : Report} {now : Instant}
      (call : op = .complete ⟨life.name, index⟩ report now) (undecided : s.decision = none)
      (mem : life ∈ s.lifecycles) (opened : life.openAttempt? = some index)
      (success : report.outcome.isSuccess = true) :
      Change op s { transitions := [Transition.closing ⟨life.name, index⟩ report] }
        (s.noteSuccess life report)
  /-- A failed attempt is followed by the next one at once. -/
  | retry {s : Schedule} {life : Lifecycle} {index : UInt32} {report : Report} {now : Instant}
      (call : op = .complete ⟨life.name, index⟩ report now) (undecided : s.decision = none)
      (mem : life ∈ s.lifecycles) (opened : life.openAttempt? = some index)
      (failure : report.outcome.isSuccess = false)
      (left : life.failures + 1 < life.failureLimit)
      (within : (s.budget.record false).exceeded = false) :
      Change op s
        { launched := [Attempt.ofSpec life.spec (index + 1)
            (life.restartDelay report s.options.minDuration)]
          transitions := [Transition.closing ⟨life.name, index⟩ report,
            Transition.launch (life.tolerated report).nextId now] }
        ((s.noteRetry life report).put ((life.tolerated report).opened now))
  /-- A failed attempt that could be retried exceeds the budget. -/
  | overrun {s : Schedule} {life : Lifecycle} {index : UInt32} {report : Report} {now : Instant}
      (call : op = .complete ⟨life.name, index⟩ report now) (undecided : s.decision = none)
      (mem : life ∈ s.lifecycles) (opened : life.openAttempt? = some index)
      (failure : report.outcome.isSuccess = false)
      (left : life.failures + 1 < life.failureLimit)
      (exceeded : (s.budget.record false).exceeded = true) :
      Change op s
        ((s.noteRetry life report).failing [Transition.closing ⟨life.name, index⟩ report] []
          ((s.noteRetry life report).budgetReason life.name))
        ((s.noteRetry life report).decide
          (.failed ((s.noteRetry life report).budgetReason life.name)))
  /-- A process that nothing waits for fails for good. -/
  | tolerate {s : Schedule} {life : Lifecycle} {index : UInt32} {report : Report} {now : Instant}
      (call : op = .complete ⟨life.name, index⟩ report now) (undecided : s.decision = none)
      (mem : life ∈ s.lifecycles) (opened : life.openAttempt? = some index)
      (failure : report.outcome.isSuccess = false)
      (last : life.failureLimit ≤ life.failures + 1)
      (leaf : s.task.precedence.isPredecessor life.name = false)
      (within : (s.budget.record true).exceeded = false) :
      Change op s
        { transitions := [Transition.closing ⟨life.name, index⟩ report]
          newlyBlocked := s.blockedBy life.name }
        (s.noteFailure life report)
  /-- A process that nothing waits for fails for good and exceeds the budget. -/
  | exhaust {s : Schedule} {life : Lifecycle} {index : UInt32} {report : Report} {now : Instant}
      (call : op = .complete ⟨life.name, index⟩ report now) (undecided : s.decision = none)
      (mem : life ∈ s.lifecycles) (opened : life.openAttempt? = some index)
      (failure : report.outcome.isSuccess = false)
      (last : life.failureLimit ≤ life.failures + 1)
      (leaf : s.task.precedence.isPredecessor life.name = false)
      (exceeded : (s.budget.record true).exceeded = true) :
      Change op s
        ((s.noteFailure life report).failing [Transition.closing ⟨life.name, index⟩ report]
          (s.blockedBy life.name) ((s.noteFailure life report).budgetReason life.name))
        ((s.noteFailure life report).decide
          (.failed ((s.noteFailure life report).budgetReason life.name)))
  /-- A process that others wait for fails for good. -/
  | fatal {s : Schedule} {life : Lifecycle} {index : UInt32} {report : Report} {now : Instant}
      (call : op = .complete ⟨life.name, index⟩ report now) (undecided : s.decision = none)
      (mem : life ∈ s.lifecycles) (opened : life.openAttempt? = some index)
      (failure : report.outcome.isSuccess = false)
      (last : life.failureLimit ≤ life.failures + 1)
      (waited : s.task.precedence.isPredecessor life.name = true) :
      Change op s
        ((s.noteFailure life report).failing [Transition.closing ⟨life.name, index⟩ report]
          (s.blockedBy life.name) (.dependencyFailed life.name))
        ((s.noteFailure life report).decide (.failed (.dependencyFailed life.name)))
  /-- A completion that comes after the decision. -/
  | late {s : Schedule} {life : Lifecycle} {index : UInt32} {report : Report} {now : Instant}
      (call : op = .complete ⟨life.name, index⟩ report now) (decided : s.decision ≠ none)
      (mem : life ∈ s.lifecycles) (opened : life.openAttempt? = some index) :
      Change op s { transitions := [Transition.closing ⟨life.name, index⟩ report] }
        (s.put (life.closedLate report))
  | cancel {s : Schedule} (call : op = .cancel) (undecided : s.decision = none) :
      Change op s (s.failing [] [] .cancelled) (s.decide (.failed .cancelled))
  /-- Nothing is running and nothing can start any more. -/
  | conclude {s : Schedule} (undecided : s.decision = none)
      (settled : s.lifecycles.any s.isOutstanding = false) :
      Change op s { decision := some .success } (s.decide .success)

theorem Change.task {op : Operation} {s t : Schedule} {step : Step} (change : Change op s step t) :
    t.task = s.task := by
  cases change <;> rfl

theorem Change.options {op : Operation} {s t : Schedule} {step : Step}
    (change : Change op s step t) : t.options = s.options := by
  cases change <;> rfl

/-- A decision is announced in the change that makes it, and stays. -/
theorem Change.decision {op : Operation} {s t : Schedule} {step : Step}
    (change : Change op s step t) : t.decision = s.decision.or step.decision := by
  cases change with
  | late _ decided _ _ => simp
  | launch _ undecided | succeed _ undecided | retry _ undecided | overrun _ undecided
  | tolerate _ undecided | exhaust _ undecided | fatal _ undecided | cancel _ undecided
  | conclude undecided => simp [undecided, Schedule.failing]

theorem Change.undecided {op : Operation} {s t : Schedule} {step : Step}
    (change : Change op s step t) (h : t.decision = none) : s.decision = none := by
  rw [change.decision, Option.or_eq_none_iff] at h
  exact h.1

/-- Any number of changes in the course of one operation, announced together. -/
inductive Changes (op : Operation) : Schedule → Step → Schedule → Prop
  | none (s : Schedule) : Changes op s {} s
  | more {s t u : Schedule} {first rest : Step} (change : Change op s first t)
      (changes : Changes op t rest u) : Changes op s (first.andThen rest) u

theorem Changes.one {op : Operation} {s t : Schedule} {step : Step} (change : Change op s step t) :
    Changes op s step t := by
  have h := Changes.more change (.none t)
  rwa [Step.andThen_nil] at h

theorem Changes.append {op : Operation} {s t u : Schedule} {first second : Step}
    (before : Changes op s first t) (after : Changes op t second u) :
    Changes op s (first.andThen second) u := by
  induction before with
  | none s => simpa using after
  | more change _ ih =>
    rw [Step.andThen_assoc]
    exact .more change (ih after)

theorem Changes.task {op : Operation} {s t : Schedule} {step : Step}
    (changes : Changes op s step t) : t.task = s.task := by
  induction changes with
  | none s => rfl
  | more change _ ih => exact ih.trans change.task

theorem Changes.decision {op : Operation} {s t : Schedule} {step : Step}
    (changes : Changes op s step t) : t.decision = s.decision.or step.decision := by
  induction changes with
  | none s => simp
  | more change _ ih => rw [ih, change.decision, Step.andThen_decision, Option.or_assoc]

/-- The changes of a start may come in the course of any operation. -/
theorem Changes.of_start {now : Instant} {s t : Schedule} {step : Step}
    (changes : Changes (.start now) s step t) (op : Operation) : Changes op s step t := by
  induction changes with
  | none s => exact .none s
  | more change _ ih =>
    refine .more ?_ ih
    cases change with
    | launch now undecided mem ready room => exact .launch now undecided mem ready room
    | conclude undecided settled => exact .conclude undecided settled
    | succeed call | retry call | overrun call | tolerate call | exhaust call | fatal call
    | late call | cancel call => cases call

theorem Changes.options {op : Operation} {s t : Schedule} {step : Step}
    (changes : Changes op s step t) : t.options = s.options := by
  induction changes with
  | none s => rfl
  | more change _ ih => exact ih.trans change.options

end Overseer
