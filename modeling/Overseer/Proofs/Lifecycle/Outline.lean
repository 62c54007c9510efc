import Overseer.Lifecycle

/-!
# Outlines

The outline of a thing is what is left of it without the particulars of its
execution: command lines, quantities, least run times, times, and the exit codes of
failures. Names, numbers, states and counts stay. A lifecycle does nothing that its
outline would not do: its operations commute with taking the outline, so nothing
that an outline leaves out has a part in what a lifecycle comes to.

Results:
1. `TaskDraft.check_outline`: the check of a task reads its outline only.
2. `Lifecycle.launch_outline`, `Lifecycle.complete_outline`,
   `Lifecycle.completeLate_outline`: the operations of a lifecycle.
-/

namespace Overseer

/-! ## Declarations -/

def ProcessSpec.outline (spec : ProcessSpec) : ProcessSpec :=
  { spec with cmdline := "", minDuration := .zero }

@[simp] theorem ProcessSpec.outline_name (spec : ProcessSpec) : spec.outline.name = spec.name := rfl

@[simp]
theorem ProcessSpec.outline_maxFailures (spec : ProcessSpec) :
    spec.outline.maxFailures = spec.maxFailures := rfl

namespace TaskDraft

def outline (draft : TaskDraft) : TaskDraft :=
  { draft with resources := {}, processes := draft.processes.map (·.outline) }

theorem processFault?_outline (seen : List ProcessName) (specs : List ProcessSpec) :
    processFault? seen (specs.map (·.outline)) = processFault? seen specs := by
  induction specs generalizing seen with
  | nil => rfl
  | cons spec rest ih => simp [processFault?, ih]

theorem processNames_outline (draft : TaskDraft) :
    draft.outline.processNames = draft.processNames := by
  rw [processNames, outline, List.map_map]
  rfl

theorem check_outline (draft : TaskDraft) : draft.outline.check = draft.check := by
  have hempty : draft.outline.processes.isEmpty = draft.processes.isEmpty := by simp [outline]
  have hfault : processFault? [] draft.outline.processes = processFault? [] draft.processes :=
    processFault?_outline [] draft.processes
  rw [check, check, hempty, hfault, processNames_outline]
  rfl

end TaskDraft

/-- The outline of a task has its precedence. -/
def TaskSpec.outline (task : TaskSpec) : TaskSpec where
  toTaskDraft := task.toTaskDraft.outline
  precedence := task.precedence
  checked := task.toTaskDraft.check_outline.trans task.checked

/-! ## Attempts -/

def Attempt.outline (attempt : Attempt) : Attempt := ⟨attempt.id, "", .zero, .zero⟩

def Outcome.outline : Outcome → Outcome
  | success => success
  | failure _ => noExitCode

@[simp]
theorem Outcome.outline_isSuccess (outcome : Outcome) :
    outcome.outline.isSuccess = outcome.isSuccess := by
  cases outcome <;> rfl

@[simp]
theorem Outcome.outline_runState (outcome : Outcome) :
    outcome.outline.runState = outcome.runState := by
  cases outcome <;> rfl

def Report.outline (report : Report) : Report := ⟨report.outcome.outline, default, default⟩

/-- The outline of a closed run is that of a run without a least run time. -/
def RunPhase.outline : RunPhase → RunPhase
  | inFlight _ => inFlight default
  | ended report _ => ended report.outline (Span.zero.metBy report.outline.elapsed)

namespace Run

def outline (run : Run) : Run := ⟨run.id, run.phase.outline⟩

@[simp] theorem outline_id (run : Run) : run.outline.id = run.id := rfl

@[simp]
theorem outline_isOpen (run : Run) : run.outline.isOpen = run.isOpen := by
  obtain ⟨id, phase⟩ := run
  cases phase <;> rfl

@[simp]
theorem outline_state (run : Run) : run.outline.state = run.state := by
  obtain ⟨id, phase⟩ := run
  cases phase with
  | inFlight => rfl
  | ended report met => exact report.outcome.outline_runState

theorem outline_close (run : Run) (report : Report) (minDuration : Span) :
    (run.close report minDuration).outline = run.outline.close report.outline .zero := rfl

end Run

def Transition.outline (transition : Transition) : Transition :=
  { transition with timestamp := default }

theorem Transition.outline_launch (id : AttemptId) (now : Instant) :
    (launch id now).outline = launch id default := rfl

theorem Transition.outline_closing (id : AttemptId) (report : Report) :
    (closing id report).outline = closing id report.outline := by
  simp [closing, outline, Report.outline]

def Verdict.outline : Verdict → Verdict
  | succeeded => succeeded
  | retry nextAttempt _ => retry nextAttempt .zero
  | permanentlyFailed => permanentlyFailed

/-! ## Lifecycles -/

namespace Lifecycle

def outline (life : Lifecycle) : Lifecycle :=
  { life with spec := life.spec.outline, runs := life.runs.map (·.outline) }

@[simp] theorem outline_name (life : Lifecycle) : life.outline.name = life.name := rfl
@[simp] theorem outline_state (life : Lifecycle) : life.outline.state = life.state := rfl

theorem outline_openRun? (life : Lifecycle) :
    life.outline.openRun? = life.openRun?.map (·.outline) := by
  rw [openRun?, openRun?, outline, List.getLast?_map]
  cases life.runs.getLast? with
  | none => rfl
  | some run => cases hopen : run.isOpen <;> simp [Option.filter, hopen]

@[simp]
theorem outline_openAttempt? (life : Lifecycle) :
    life.outline.openAttempt? = life.openAttempt? := by
  rw [openAttempt?, outline_openRun?, Option.map_map]
  rfl

variable (life : Lifecycle) (index : UInt32) (report : Report)

theorem launch_outline (now : Instant) : life.outline.launch default =
    (life.launch now).map outline (·.map (·.outline)) := by
  simp only [launch, outline_state, outline_openAttempt?, outline_name]
  cases life.state.isTerminal with
  | true => rfl
  | false =>
    cases life.openAttempt? with
    | some attempt => rfl
    | none =>
      simp [outline, Except.map, Run.launched, Run.outline, RunPhase.outline,
        Transition.outline_launch]

theorem closeRun_outline : life.outline.closeRun index report.outline =
    (life.closeRun index report).map outline (·.map (·.outline)) := by
  simp only [closeRun, outline_openRun?, outline_state, outline_name]
  cases life.openRun? with
  | none => by_cases hterminal : life.state.isTerminal = true <;> simp [hterminal, Except.map]
  | some run =>
    by_cases hindex : run.id.index = index
    · simp [hindex, outline, Except.map, Run.outline_close, List.map_dropLast,
        Transition.outline_closing, ProcessSpec.outline]
    · simp [hindex, Except.map]

/-- The wait before a retry has no part in the verdict. -/
theorem complete_outline (policy : MinDurationPolicy) :
    life.outline.complete index report.outline .observe =
      (life.complete index report policy).map outline
        (·.map fun answer => (answer.1.outline, answer.2.outline)) := by
  rw [complete, complete, closeRun_outline]
  obtain ⟨closed, answer⟩ := life.closeRun index report
  cases answer with
  | error refusal => rfl
  | ok transition =>
    have hsuccess : report.outline.outcome.isSuccess = report.outcome.isSuccess :=
      report.outcome.outline_isSuccess
    simp only [Prod.map, Except.map, hsuccess]
    cases report.outcome.isSuccess with
    | true => rfl
    | false =>
      -- The limit and the count of an outline are those of the lifecycle.
      by_cases hlast : ({ closed with failures := closed.failures + 1 } : Lifecycle).failureLimit ≤
          closed.failures + 1
      · simp only [hlast, Bool.false_eq_true, if_false, if_true]
        exact if_pos hlast
      · simp only [hlast, Bool.false_eq_true, if_false]
        exact if_neg hlast

theorem completeLate_outline : life.outline.completeLate index report.outline =
    (life.completeLate index report).map outline (·.map (·.outline)) := by
  rw [completeLate, completeLate, closeRun_outline]
  obtain ⟨closed, answer⟩ := life.closeRun index report
  cases answer with
  | error refusal => rfl
  | ok transition => rfl

end Lifecycle

end Overseer
