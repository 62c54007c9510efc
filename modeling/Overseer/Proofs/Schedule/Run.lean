import Overseer.Schedule.Basic

/-!
# Runs of a schedule

An `Operation` is one call that a supervisor may make on a schedule, with any
arguments. `Schedule.after` is the schedule that a list of operations leads to,
`Schedule.steps` what they answer one by one, and `Schedule.Reachable` holds of
the schedules that some operations lead to from the start of a task.
-/

namespace Overseer

inductive Operation
  | start (now : Instant)
  | complete (id : AttemptId) (report : Report) (now : Instant)
  | cancel
  deriving DecidableEq

namespace Schedule

def apply (schedule : Schedule) : Operation → Schedule × Step
  | .start now => schedule.start now
  | .complete id report now => schedule.complete id report now
  | .cancel => schedule.cancel

/-- The schedule after the given operations. -/
def after (schedule : Schedule) : List Operation → Schedule
  | [] => schedule
  | op :: rest => (schedule.apply op).1.after rest

/-- What the given operations answer, in their order. -/
def steps (schedule : Schedule) : List Operation → List Step
  | [] => []
  | op :: rest => (schedule.apply op).2 :: (schedule.apply op).1.steps rest

/-- All transitions that the given operations announce, in order. -/
def trace (schedule : Schedule) (ops : List Operation) : List Transition :=
  (schedule.steps ops).flatMap (·.transitions)

/-- `schedule` arises from the task by some operations. -/
def Reachable (task : TaskSpec) (options : SchedulerOptions) (schedule : Schedule) : Prop :=
  ∃ ops, (initial task options).after ops = schedule

/-- `schedule` arises by a start of the task and some operations after it. -/
def Started (task : TaskSpec) (options : SchedulerOptions) (schedule : Schedule) : Prop :=
  ∃ now ops, (initial task options).after (.start now :: ops) = schedule

theorem Started.reachable {task : TaskSpec} {options : SchedulerOptions} {schedule : Schedule}
    (h : Started task options schedule) : Reachable task options schedule := by
  obtain ⟨now, ops, hafter⟩ := h
  exact ⟨.start now :: ops, hafter⟩

@[simp]
theorem after_nil (schedule : Schedule) : schedule.after [] = schedule := rfl

@[simp]
theorem after_cons (schedule : Schedule) (op : Operation) (rest : List Operation) :
    schedule.after (op :: rest) = (schedule.apply op).1.after rest := rfl

@[simp]
theorem after_append (schedule : Schedule) (first second : List Operation) :
    schedule.after (first ++ second) = (schedule.after first).after second := by
  induction first generalizing schedule with
  | nil => rfl
  | cons op rest ih => exact ih (schedule.apply op).1

@[simp]
theorem trace_nil (schedule : Schedule) : schedule.trace [] = [] := rfl

@[simp]
theorem trace_cons (schedule : Schedule) (op : Operation) (rest : List Operation) :
    schedule.trace (op :: rest) =
      (schedule.apply op).2.transitions ++ (schedule.apply op).1.trace rest := by
  simp [trace, steps]

end Schedule

namespace Step

@[simp]
theorem andThen_nil (step : Step) : step.andThen {} = step := by
  obtain ⟨launched, transitions, newlyBlocked, decision, toStop⟩ := step
  simp [andThen]

@[simp]
theorem nil_andThen (step : Step) : Step.andThen {} step = step := by
  obtain ⟨launched, transitions, newlyBlocked, decision, toStop⟩ := step
  simp [andThen]

theorem andThen_assoc (a b c : Step) : (a.andThen b).andThen c = a.andThen (b.andThen c) := by
  simp [andThen, Option.or_assoc]

@[simp] theorem andThen_launched (first second : Step) :
    (first.andThen second).launched = first.launched ++ second.launched := rfl

@[simp] theorem andThen_transitions (first second : Step) :
    (first.andThen second).transitions = first.transitions ++ second.transitions := rfl

@[simp] theorem andThen_newlyBlocked (first second : Step) :
    (first.andThen second).newlyBlocked = first.newlyBlocked ++ second.newlyBlocked := rfl

@[simp] theorem andThen_decision (first second : Step) :
    (first.andThen second).decision = first.decision.or second.decision := rfl

end Step

end Overseer
