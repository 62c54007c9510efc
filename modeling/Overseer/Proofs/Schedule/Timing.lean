import Overseer.Proofs.Lifecycle.Outline
import Overseer.Proofs.Schedule.Lookup
import Overseer.Proofs.Schedule.Run
import Overseer.Proofs.Task.Checked

/-!
# Time does not influence scheduling

Two runs of a task make the same decisions even if everything takes another time in
one of them: if they differ only in command lines, quantities, least run times, the
policy on these, the times of all calls and reports, and the exit codes of failures,
they launch, block, stop and decide the same at every step.

The argument compares each of the two with a third run, the one of their common
outline. Every operation commutes with taking outlines, so the steps of a schedule
have the outlines of the steps of its outline.

Results:
1. `advance_outline`, `settle_outline`: the parts of a step.
2. `apply_outline`, `steps_outline`, `after_outline`: operations and runs.
3. `timing_irrelevant`: two runs side by side.
-/

namespace Overseer

/-! ## Outlines -/

namespace Step

def outline (step : Step) : Step :=
  { step with
    launched := step.launched.map (·.outline)
    transitions := step.transitions.map (·.outline) }

@[simp]
theorem outline_andThen (first second : Step) :
    (first.andThen second).outline = first.outline.andThen second.outline := by
  simp [outline, andThen]

end Step

def SchedulerOptions.outline (options : SchedulerOptions) : SchedulerOptions :=
  { options with minDuration := .observe }

def Operation.outline : Operation → Operation
  | start _ => start default
  | complete id report _ => complete id report.outline default
  | cancel => cancel

namespace Schedule

def outline (schedule : Schedule) : Schedule :=
  { schedule with
    task := schedule.task.outline
    options := schedule.options.outline
    lifecycles := schedule.lifecycles.map (·.outline) }

/-- The outline of a schedule and of the step that led to it. -/
def outlines (result : Schedule × Step) : Schedule × Step := (result.1.outline, result.2.outline)

variable (s : Schedule) (life : Lifecycle) (p : ProcessName)

theorem outline_lifecycles : s.outline.lifecycles = s.lifecycles.map (·.outline) := rfl

@[simp] theorem outline_progress : s.outline.progress = s.progress := rfl
@[simp] theorem outline_budget : s.outline.budget = s.budget := rfl
@[simp] theorem outline_decision : s.outline.decision = s.decision := rfl
@[simp] theorem outline_isDecided : s.outline.isDecided = s.isDecided := rfl
@[simp] theorem outline_precedence : s.outline.task.precedence = s.task.precedence := rfl
@[simp] theorem outline_maxConcurrency :
    s.outline.task.maxConcurrency = s.task.maxConcurrency := rfl

@[simp]
theorem initial_outline (task : TaskSpec) (options : SchedulerOptions) :
    (initial task options).outline = initial task.outline options.outline := by
  simp [initial, outline, TaskSpec.outline, TaskDraft.outline, SchedulerOptions.outline,
    Lifecycle.outline, Function.comp_def]

/-! ## Views -/

theorem outline_lifecycle? : s.outline.lifecycle? p = (s.lifecycle? p).map (·.outline) := by
  rw [lifecycle?, outline, List.find?_map]
  rfl

theorem outline_stateOf? : s.outline.stateOf? p = s.stateOf? p := by
  rw [stateOf?, outline_lifecycle?, Option.map_map]
  rfl

theorem outline_inFlight : s.outline.inFlight = s.inFlight := by
  simp [inFlight, outline, List.filterMap_map, Function.comp_def]

theorem outline_runningCount : s.outline.runningCount = s.runningCount :=
  List.countP_map

theorem outline_isReady : s.outline.isReady ∘ Lifecycle.outline = s.isReady := rfl

theorem outline_isOutstanding : s.outline.isOutstanding ∘ Lifecycle.outline = s.isOutstanding :=
  rfl

theorem outline_anyOutstanding : s.outline.lifecycles.any s.outline.isOutstanding =
    s.lifecycles.any s.isOutstanding := by
  rw [outline_lifecycles, List.any_map, outline_isOutstanding]

theorem outline_readyNames : s.outline.readyNames = s.readyNames := by
  rw [readyNames, readyNames, outline_lifecycles, List.filter_map, List.map_map, outline_isReady]
  rfl

theorem outline_isFull (running : Nat) : s.outline.isFull running = s.isFull running := rfl

theorem outline_records : s.outline.records =
    s.records.map fun record => (record.1, record.2.map (·.outline)) := by
  have hlaunched : s.outline.lifecycles.filter (fun life => !life.runs.isEmpty) =
      (s.lifecycles.filter fun life => !life.runs.isEmpty).map (·.outline) := by
    rw [outline_lifecycles, List.filter_map]
    simp [Function.comp_def, Lifecycle.outline]
  -- The records are sorted by names, which an outline keeps.
  have hsort (records : List (ProcessName × List Run)) :
      (records.map fun record => (record.1, record.2.map (·.outline))).mergeSort
          (fun a b => a.1 ≤ b.1) =
        (records.mergeSort fun a b => a.1 ≤ b.1).map
          fun record => (record.1, record.2.map (·.outline)) := by
    symm
    apply List.map_mergeSort
    exact fun _ _ _ _ => rfl
  rw [records, records, hlaunched, ← hsort, List.map_map, List.map_map]
  rfl

/-! ## Parts of a step -/

theorem put_outline : (s.put life).outline = s.outline.put life.outline := by
  have hlives : (s.put life).lifecycles.map (·.outline) =
      (s.outline.put life.outline).lifecycles := by
    rw [put, put, outline, List.map_map, List.map_map]
    exact List.map_congr_left fun old _ => apply_ite Lifecycle.outline _ life old
  exact congrArg (fun lives => { s.outline with lifecycles := lives }) hlives

theorem launch_outline (now : Instant) (index : UInt32) (delay : Span) :
    s.outline.launch default index .zero p = outlines (s.launch now index delay p) := by
  rw [launch, launch, outline_lifecycle?]
  cases s.lifecycle? p with
  | none => rfl
  | some life =>
    simp only [Option.map_some, life.launch_outline now]
    rcases life.launch now with ⟨next, refusal | transition⟩ <;>
      simp only [Prod.map, Except.map, outlines, put_outline] <;>
      rfl

theorem launchWhileFree_outline (now : Instant) (running : Nat) (names : List ProcessName) :
    s.outline.launchWhileFree default running names =
      outlines (s.launchWhileFree now running names) := by
  induction names generalizing s running with
  | nil => rfl
  | cons p rest ih =>
    -- The slots that a launch takes can be told from its outline.
    have hcount (step : Step) : step.outline.launched.length = step.launched.length :=
      List.length_map _
    rw [launchWhileFree, launchWhileFree, outline_isFull]
    split
    · rfl
    · simp only [s.launch_outline p now 0 .zero, outlines, hcount, ih, Step.outline_andThen]

theorem concludeSettled_outline :
    s.outline.concludeSettled = outlines s.concludeSettled := by
  rw [concludeSettled, concludeSettled, outline_anyOutstanding, outline_isDecided]
  split <;> rfl

theorem advance_outline (now : Instant) : s.outline.advance default = outlines (s.advance now) := by
  simp only [advance, outline_runningCount, outline_readyNames, s.launchWhileFree_outline now,
    outlines, concludeSettled_outline, Step.outline_andThen]

theorem fail_outline (reason : FailureReason) :
    s.outline.fail reason = outlines (s.fail reason) := by
  rw [fail, fail, outline_inFlight]
  rfl

theorem settle_outline (verdict : Verdict) (now : Instant) :
    s.outline.settle p verdict.outline default = outlines (s.settle p verdict now) := by
  cases verdict with
  | succeeded =>
    exact advance_outline
      { s with progress := s.progress.recordSuccess s.task.precedence p } now
  | retry nextAttempt delay =>
    generalize hcounted : ({ s with budget := s.budget.record false } : Schedule) = counted
    have houtline : ({ s.outline with budget := s.budget.record false } : Schedule) =
        counted.outline := by rw [← hcounted]; rfl
    simp only [settle, Verdict.outline, outline_budget, houtline, hcounted]
    by_cases hover : (s.budget.record false).exceeded = true
    · rw [if_pos hover, if_pos hover]
      exact counted.fail_outline _
    · rw [if_neg hover, if_neg hover]
      simp only [counted.launch_outline p now nextAttempt delay, outlines, advance_outline _ now,
        Step.outline_andThen]
  | permanentlyFailed =>
    generalize hfailed : s.progress.recordFailure s.task.precedence p = failed
    generalize hcounted : ({ s with progress := failed.1, budget := s.budget.record true } :
      Schedule) = counted
    have houtline : ({ s.outline with progress := failed.1, budget := s.budget.record true } :
        Schedule) = counted.outline := by rw [← hcounted]; rfl
    simp only [settle, Verdict.outline, outline_budget, outline_progress, outline_precedence,
      hfailed, houtline, hcounted]
    by_cases hwaited : s.task.precedence.isPredecessor p = true
    · simp only [hwaited, if_true, counted.fail_outline]
      rfl
    · by_cases hover : (s.budget.record true).exceeded = true
      · simp only [hwaited, hover, if_true, counted.fail_outline]
        rfl
      · simp only [hwaited, hover, counted.advance_outline now]
        rfl

/-! ## Operations and runs -/

theorem complete_outline (id : AttemptId) (report : Report) (now : Instant) :
    s.outline.complete id report.outline default = outlines (s.complete id report now) := by
  rw [complete, complete, outline_lifecycle?, outline_isDecided]
  cases s.lifecycle? id.process with
  | none => rfl
  | some life =>
    simp only [Option.map_some]
    by_cases hdecided : s.isDecided = true
    · simp only [hdecided, if_true, life.completeLate_outline]
      rcases life.completeLate id.index report with ⟨next, refusal | transition⟩ <;>
        simp only [Prod.map, Except.map, outlines, put_outline] <;>
        rfl
    · have hpolicy : s.outline.options.minDuration = .observe := rfl
      simp only [hdecided, Bool.false_eq_true, if_false, hpolicy,
        life.complete_outline id.index report s.options.minDuration]
      rcases life.complete id.index report s.options.minDuration with
        ⟨next, refusal | ⟨transition, verdict⟩⟩
      · simp only [Prod.map, Except.map, outlines, put_outline]
        rfl
      · simp only [Prod.map, Except.map, ← put_outline, settle_outline _ id.process _ now,
          outlines]
        rfl

theorem start_outline (now : Instant) : s.outline.start default = outlines (s.start now) := by
  rw [start, start, outline_isDecided, s.advance_outline now]
  split <;> rfl

theorem cancel_outline : s.outline.cancel = outlines s.cancel := by
  rw [cancel, cancel, outline_isDecided, fail_outline]
  split <;> rfl

/-- Every operation commutes with taking outlines. -/
theorem apply_outline (op : Operation) : s.outline.apply op.outline = outlines (s.apply op) := by
  cases op with
  | start now => exact s.start_outline now
  | complete id report now => exact s.complete_outline id report now
  | cancel => exact s.cancel_outline

theorem after_outline (ops : List Operation) :
    s.outline.after (ops.map (·.outline)) = (s.after ops).outline := by
  induction ops generalizing s with
  | nil => rfl
  | cons op rest ih =>
    rw [List.map_cons, after_cons, after_cons, apply_outline]
    exact ih (s.apply op).1

theorem steps_outline (ops : List Operation) :
    s.outline.steps (ops.map (·.outline)) = (s.steps ops).map (·.outline) := by
  induction ops generalizing s with
  | nil => rfl
  | cons op rest ih =>
    rw [List.map_cons, steps, steps, apply_outline, List.map_cons]
    exact congrArg (List.cons _) (ih (s.apply op).1)

end Schedule

/-! ## Alike -/

/-- Two declarations that differ only in quantities and in the command lines and least
run times of their processes. -/
structure TaskDraft.Alike (draft other : TaskDraft) : Prop where
  name : draft.name = other.name
  maxFailures : draft.maxFailures = other.maxFailures
  maxConcurrency : draft.maxConcurrency = other.maxConcurrency
  constraints : draft.constraints = other.constraints
  processes : List.Forall₂ (fun a b => a.name = b.name ∧ a.maxFailures = b.maxFailures)
    draft.processes other.processes

/-- Two operations that differ only in times and in the exit code of a failure. -/
inductive Operation.Alike : Operation → Operation → Prop
  | start (now later : Instant) : Alike (.start now) (.start later)
  | complete (id : AttemptId) {report other : Report}
      (success : report.outcome.isSuccess = other.outcome.isSuccess) (now later : Instant) :
      Alike (.complete id report now) (.complete id other later)
  | cancel : Alike .cancel .cancel

/-- The transitions of a step without their times. -/
def Step.changes (step : Step) : List (AttemptId × ProcessState × ProcessState) :=
  step.transitions.map fun transition =>
    (transition.id, transition.oldState, transition.newState)

/-- Two steps that do the same, if at other times. -/
structure Step.Alike (step other : Step) : Prop where
  launched : step.launched.map (·.id) = other.launched.map (·.id)
  changes : step.changes = other.changes
  newlyBlocked : step.newlyBlocked = other.newlyBlocked
  decision : step.decision = other.decision
  toStop : step.toStop = other.toStop

/-- The records without times, exit codes and what became of the least run times. -/
def Schedule.recordedStates (schedule : Schedule) :
    List (ProcessName × List (AttemptId × ProcessState)) :=
  schedule.records.map fun record => (record.1, record.2.map fun run => (run.id, run.state))

/-- Two schedules in which the processes stand alike. -/
structure Schedule.Alike (s t : Schedule) : Prop where
  states : ∀ p, s.stateOf? p = t.stateOf? p
  inFlight : s.inFlight = t.inFlight
  budget : s.budget = t.budget
  decision : s.decision = t.decision
  recordedStates : s.recordedStates = t.recordedStates

/-- Two lists have the same image exactly if their elements have, one by one. -/
theorem map_eq_map_iff_forall₂ {α β : Type} {f : α → β} {xs ys : List α} :
    xs.map f = ys.map f ↔ List.Forall₂ (fun x y => f x = f y) xs ys := by
  rw [← List.forall₂_map_right_iff (f := f), ← List.forall₂_map_left_iff (f := f),
    List.forall₂_eq_eq_eq]

namespace TaskDraft.Alike

variable {draft other : TaskDraft}

theorem outline_eq (h : draft.Alike other) : draft.outline = other.outline := by
  have hprocesses : draft.processes.map (·.outline) = other.processes.map (·.outline) := by
    refine map_eq_map_iff_forall₂.mpr (h.processes.imp fun a b hspec => ?_)
    simp [ProcessSpec.outline, hspec.1, hspec.2]
  simp [outline, h.name, h.maxFailures, h.maxConcurrency, h.constraints, hprocesses]

/-- One is accepted exactly if the other is, with the same precedence. -/
theorem check_eq (h : draft.Alike other) : draft.check = other.check := by
  rw [← draft.check_outline, h.outline_eq, other.check_outline]

end TaskDraft.Alike

theorem TaskSpec.outline_eq {task other : TaskSpec}
    (h : task.toTaskDraft.Alike other.toTaskDraft) : task.outline = other.outline := by
  have hprecedence : task.precedence = other.precedence :=
    Except.ok.inj (task.checked.symm.trans (h.check_eq.trans other.checked))
  simp only [outline, h.outline_eq, hprecedence]

theorem Operation.Alike.outline_eq {op other : Operation} (h : op.Alike other) :
    op.outline = other.outline := by
  cases h with
  | start | cancel => rfl
  | @complete id report other success now later =>
    have houtcome : report.outcome.outline = other.outcome.outline := by
      cases hfirst : report.outcome <;> cases hsecond : other.outcome <;>
        simp_all [Outcome.isSuccess, Outcome.outline]
    simp [Operation.outline, Report.outline, houtcome]

namespace Step

theorem outline_launchedIds (step : Step) :
    step.outline.launched.map (·.id) = step.launched.map (·.id) := by
  simp [outline, Attempt.outline, Function.comp_def]

theorem outline_changes (step : Step) : step.outline.changes = step.changes := by
  simp [changes, outline, Transition.outline, Function.comp_def]

theorem Alike.of_outline {step other : Step} (h : step.outline = other.outline) :
    step.Alike other where
  launched := by rw [← step.outline_launchedIds, h, other.outline_launchedIds]
  changes := by rw [← step.outline_changes, h, other.outline_changes]
  newlyBlocked := congrArg (·.newlyBlocked) h
  decision := congrArg (·.decision) h
  toStop := congrArg (·.toStop) h

end Step

/-! ## Two runs -/

namespace Schedule

theorem outline_recordedStates (s : Schedule) : s.outline.recordedStates = s.recordedStates := by
  simp [recordedStates, outline_records, Function.comp_def]

theorem Alike.of_outline {s t : Schedule} (h : s.outline = t.outline) : s.Alike t where
  states p := by rw [← s.outline_stateOf?, h, t.outline_stateOf?]
  inFlight := by rw [← s.outline_inFlight, h, t.outline_inFlight]
  budget := by rw [← s.outline_budget, h, t.outline_budget]
  decision := by rw [← s.outline_decision, h, t.outline_decision]
  recordedStates := by rw [← s.outline_recordedStates, h, t.outline_recordedStates]

/-- Two runs of tasks that differ only in what an outline leaves out go alike: each
step launches, blocks, stops and decides the same and announces the same changes,
and at every point the processes stand alike. -/
theorem timing_irrelevant {task other : TaskSpec}
    (tasks : task.toTaskDraft.Alike other.toTaskDraft)
    {options otherOptions : SchedulerOptions}
    (counting : options.counting = otherOptions.counting) {ops otherOps : List Operation}
    (operations : List.Forall₂ Operation.Alike ops otherOps) :
    List.Forall₂ Step.Alike ((initial task options).steps ops)
      ((initial other otherOptions).steps otherOps) ∧
    ∀ n, Schedule.Alike ((initial task options).after (ops.take n))
      ((initial other otherOptions).after (otherOps.take n)) := by
  have houtset : (initial task options).outline = (initial other otherOptions).outline := by
    rw [initial_outline, initial_outline, TaskSpec.outline_eq tasks]
    simp [SchedulerOptions.outline, counting]
  have hops : ops.map (·.outline) = otherOps.map (·.outline) := map_eq_map_iff_forall₂.mpr
    (operations.imp fun _ _ h => h.outline_eq)
  have hsteps : ((initial task options).steps ops).map (·.outline) =
      ((initial other otherOptions).steps otherOps).map (·.outline) := by
    rw [← steps_outline, ← steps_outline, houtset, hops]
  refine ⟨(map_eq_map_iff_forall₂.mp hsteps).imp fun _ _ => Step.Alike.of_outline, fun n => ?_⟩
  apply Alike.of_outline
  rw [← after_outline, ← after_outline, houtset, List.map_take, List.map_take, hops]

end Schedule

/-- `pair` with other commands, and with a least run time of sixty nanoseconds. -/
def TaskDraft.slowPair : TaskDraft :=
  { pair with
    resources := { ram := 1 }
    processes := [⟨"first", "sleep 1", 2, ⟨60⟩⟩, ⟨"second", "sleep 2", 1, ⟨60⟩⟩] }

def TaskSpec.slowPair : TaskSpec where
  toTaskDraft := .slowPair
  precedence := pair.precedence
  checked := TaskDraft.slowPair.check_outline.symm.trans
    (TaskDraft.pair.check_outline.trans TaskDraft.check_pair)

namespace Schedule

/-- In one run `first` fails after nine nanoseconds and is tried again at once. In the
other, which is told of times that run backwards, the retry has to wait.
Both go on alike. -/
theorem timing_irrelevant_pair :
    let ops : List Operation := [.start ⟨0⟩,
      .complete ⟨"first", 0⟩ ⟨.failure 1, ⟨0⟩, ⟨9⟩⟩ ⟨9⟩,
      .complete ⟨"first", 1⟩ ⟨.success, ⟨9⟩, ⟨12⟩⟩ ⟨12⟩]
    let otherOps : List Operation := [.start ⟨5⟩,
      .complete ⟨"first", 0⟩ ⟨.noExitCode, ⟨7⟩, ⟨6⟩⟩ ⟨-1⟩,
      .complete ⟨"first", 1⟩ ⟨.success, ⟨4⟩, ⟨4⟩⟩ ⟨4⟩]
    let s := initial .pair {}
    let t := initial .slowPair { minDuration := .delayRestart }
    TaskSpec.pair.toTaskDraft.Alike TaskSpec.slowPair.toTaskDraft ∧
      List.Forall₂ Operation.Alike ops otherOps ∧
      (t.steps otherOps).map (fun step => step.launched.map (·.restartDelay)) =
        [[.zero], [⟨60⟩], [.zero]] ∧
      List.Forall₂ Step.Alike (s.steps ops) (t.steps otherOps) ∧
      ∀ n, (s.after (ops.take n)).Alike (t.after (otherOps.take n)) := by
  intro ops otherOps s t
  have tasks : TaskSpec.pair.toTaskDraft.Alike TaskSpec.slowPair.toTaskDraft :=
    ⟨rfl, rfl, rfl, rfl, .cons ⟨rfl, rfl⟩ (.cons ⟨rfl, rfl⟩ .nil)⟩
  have counting : ({} : SchedulerOptions).counting =
      ({ minDuration := .delayRestart } : SchedulerOptions).counting := rfl
  have operations : List.Forall₂ Operation.Alike ops otherOps :=
    .cons (.start _ _) (.cons (.complete _ (by rfl) _ _) (.cons (.complete _ (by rfl) _ _) .nil))
  have alike := timing_irrelevant tasks counting operations
  exact ⟨tasks, operations, by decide, alike⟩

end Schedule

end Overseer
