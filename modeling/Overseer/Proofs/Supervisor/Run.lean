import Overseer.Supervisor.Basic
import Overseer.Proofs.Schedule.Operations

/-!
# Runs of a supervisor

A `Call` is what a host may do with a supervisor, in any order: start it, or tell
it something, each at a time that the host takes from its clock.
`Supervisor.Answer` lists what a call can lead to. Apart from a second start, each
is an operation on the schedule that the supervisor follows.

Results:
1. `apply_answer`, `apply_operation`: what each call leads to.
2. `after_sound`, `after_task`: the schedule stays sound, and its task the same.
-/

namespace Overseer

inductive Call
  | start (now : Instant)
  | tell (message : Message) (now : Instant)
  deriving DecidableEq

/-- The operation that a message asks for. -/
def Message.operation (message : Message) (now : Instant) : Operation :=
  match message with
  | .completed id report => .complete id report now
  | .startFailed id _ => .complete id (.notStarted now) now
  | .shutdown => .cancel

def Call.operation : Call → Operation
  | .start now => .start now
  | .tell message now => message.operation now

namespace Supervisor

def apply (supervisor : Supervisor) : Call → Supervisor × Reaction
  | .start now => supervisor.start now
  | .tell message now => supervisor.handle message now

/-- The supervisor after the given calls. -/
def after (supervisor : Supervisor) : List Call → Supervisor
  | [] => supervisor
  | call :: rest => (supervisor.apply call).1.after rest

/-- What the given calls answer, in their order. -/
def reactions (supervisor : Supervisor) : List Call → List Reaction
  | [] => []
  | call :: rest => (supervisor.apply call).2 :: (supervisor.apply call).1.reactions rest

/-- All events that the given calls report, in order. -/
def events (supervisor : Supervisor) (calls : List Call) : List Event :=
  (supervisor.reactions calls).flatMap (·.events)

@[simp]
theorem events_nil (supervisor : Supervisor) : supervisor.events [] = [] := rfl

@[simp]
theorem events_cons (supervisor : Supervisor) (call : Call) (rest : List Call) :
    supervisor.events (call :: rest) =
      (supervisor.apply call).2.events ++ (supervisor.apply call).1.events rest := by
  simp [events, reactions]

theorem after_append (supervisor : Supervisor) (first second : List Call) :
    supervisor.after (first ++ second) = (supervisor.after first).after second := by
  induction first generalizing supervisor with
  | nil => rfl
  | cons call rest ih => exact ih (supervisor.apply call).1

theorem reactions_append (supervisor : Supervisor) (first second : List Call) :
    supervisor.reactions (first ++ second) =
      supervisor.reactions first ++ (supervisor.after first).reactions second := by
  induction first generalizing supervisor with
  | nil => rfl
  | cons call rest ih => exact congrArg (_ :: ·) (ih (supervisor.apply call).1)

/-! ## Calls -/

/-- What a call can lead to. -/
inductive Answer (supervisor : Supervisor) : Call → Supervisor × Reaction → Prop
  | again (now : Instant) (started : supervisor.statuses ≠ []) :
      Answer supervisor (.start now) (supervisor, { keepRunning := supervisor.isBusy })
  /-- The first entry of the history stands before what the schedule starts. -/
  | begun (now : Instant) (fresh : supervisor.statuses = []) {following : Supervisor × Reaction}
      (follows : following =
        follow [⟨.active, now, none⟩] now (supervisor.schedule.apply (.start now))) :
      Answer supervisor (.start now)
        (following.1,
          { following.2 with events := .task ⟨.active, now, none⟩ :: following.2.events })
  | told (message : Message) (now : Instant) :
      Answer supervisor (.tell message now)
        (follow supervisor.statuses now (supervisor.schedule.apply (message.operation now)))

theorem apply_answer (supervisor : Supervisor) (call : Call) :
    supervisor.Answer call (supervisor.apply call) := by
  cases call with
  | start now =>
    by_cases hfresh : supervisor.statuses = []
    · have hstart : supervisor.isStarted = false := by simp [isStarted, hfresh]
      simp only [apply, start, hstart, hfresh, List.nil_append, Bool.false_eq_true, if_false]
      exact .begun now hfresh rfl
    · have hstart : supervisor.isStarted = true := by simp [isStarted, hfresh]
      simp only [apply, start, hstart, if_true]
      exact .again now hfresh
  | tell message now =>
    cases message with
    | completed id report => exact .told (.completed id report) now
    | startFailed id reason => exact .told (.startFailed id reason) now
    | shutdown => exact .told .shutdown now

section Follow

variable {statuses : List StatusEntry} {now : Instant} {result : Schedule × Step}

@[simp] theorem follow_schedule : (follow statuses now result).1.schedule = result.1 := rfl

@[simp] theorem follow_statuses : (follow statuses now result).1.statuses =
    statuses ++ (result.2.decision.map (·.statusEntry now)).toList := rfl

@[simp] theorem follow_commands : (follow statuses now result).2.commands =
    result.2.commands := rfl

@[simp] theorem follow_events : (follow statuses now result).2.events =
    result.2.transitions.map .process ++
      (result.2.decision.map (·.statusEntry now)).toList.map .task := rfl

end Follow

/-- What a call does with the schedule and asks of the executor is what its operation
does, unless it starts a supervisor a second time. -/
theorem apply_operation (supervisor : Supervisor) (call : Call)
    (h : ∀ now, call = .start now → supervisor.statuses = []) :
    (supervisor.apply call).1.schedule = (supervisor.schedule.apply call.operation).1 ∧
      (supervisor.apply call).2.commands =
        (supervisor.schedule.apply call.operation).2.commands := by
  have answer := supervisor.apply_answer call
  generalize supervisor.apply call = result at answer ⊢
  cases answer with
  | again now started => exact absurd (h now rfl) started
  | begun now _ follows =>
    subst follows
    exact ⟨rfl, rfl⟩
  | told message now => exact ⟨rfl, rfl⟩

/-! ## Soundness -/

theorem initial_sound (task : TaskSpec) (options : SchedulerOptions) :
    (initial task options).schedule.Sound :=
  Schedule.initial_sound task options

theorem Answer.sound {supervisor : Supervisor} {call : Call} {result : Supervisor × Reaction}
    (answer : supervisor.Answer call result) (h : supervisor.schedule.Sound) :
    result.1.schedule.Sound := by
  cases answer with
  | again => exact h
  | begun now fresh follows =>
    rw [follows]
    exact Schedule.apply_sound h (.start now)
  | told message now => exact Schedule.apply_sound h (message.operation now)

theorem Answer.task {supervisor : Supervisor} {call : Call} {result : Supervisor × Reaction}
    (answer : supervisor.Answer call result) (h : supervisor.schedule.Sound) :
    result.1.schedule.task = supervisor.schedule.task := by
  cases answer with
  | again => rfl
  | begun now fresh follows =>
    rw [follows]
    exact Schedule.apply_task h (.start now)
  | told message now => exact Schedule.apply_task h (message.operation now)

theorem after_sound {supervisor : Supervisor} (h : supervisor.schedule.Sound) (calls : List Call) :
    (supervisor.after calls).schedule.Sound := by
  induction calls generalizing supervisor with
  | nil => exact h
  | cons call rest ih => exact ih ((supervisor.apply_answer call).sound h)

theorem after_task {supervisor : Supervisor} (h : supervisor.schedule.Sound) (calls : List Call) :
    (supervisor.after calls).schedule.task = supervisor.schedule.task := by
  induction calls generalizing supervisor with
  | nil => rfl
  | cons call rest ih =>
    have answer := supervisor.apply_answer call
    exact (ih (answer.sound h)).trans (answer.task h)

end Supervisor

end Overseer
