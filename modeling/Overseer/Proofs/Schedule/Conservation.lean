import Overseer.Proofs.Schedule.DecisionRule

/-!
# No slot is left unused

A start, or a completion that leaves the task undecided, launches all that can be
launched: of the pending processes whose predecessors have all succeeded the first
ones in declaration order, as many as the concurrency limit has slots for. The attempt
that follows a failure is announced before them and keeps the slot of the one that
failed. So a process that could be started waits only while every slot is taken, and
a second start has nothing to do.

Results:
1. `nextLaunches_eq_openings`: what is launched, in terms of the states alone.
2. `Change.withinLimit`, `Reachable.withinLimit`: the limit is never exceeded.
3. `Change.applied`: what the change that closes an attempt leaves to be launched.
4. `work_conserved`: the launches of each operation, and what waits between two.
-/

namespace Overseer

namespace Schedule

/-! ## What can be launched -/

/-- The process is pending, and all that it waits for have succeeded. -/
def Startable (schedule : Schedule) (q : ProcessName) : Prop :=
  schedule.stateOf? q = some .pending ∧
    ∀ p, schedule.task.Requires p q → schedule.stateOf? p = some .success

instance (schedule : Schedule) (q : ProcessName) : Decidable (schedule.Startable q) :=
  decidable_of_iff
    (schedule.stateOf? q = some .pending ∧
      ∀ p ∈ schedule.task.precedence.dependenciesOf q, schedule.stateOf? p = some .success)
    (by simp only [Startable, TaskSpec.mem_dependenciesOf])

/-- The startable processes, in declaration order. -/
def startable (schedule : Schedule) : List ProcessName :=
  schedule.task.processNames.filter (schedule.Startable ·)

/-- The startable processes that get a slot; each running process takes one. -/
def openings (schedule : Schedule) : List ProcessName :=
  if schedule.task.maxConcurrency = 0 then schedule.startable
  else schedule.startable.take (schedule.task.maxConcurrency.toNat - schedule.runningCount)

/-- A start, or the completion of an attempt in flight. -/
def Launches (schedule : Schedule) : Operation → Prop
  | .start _ => True
  | .complete id _ _ => id ∈ schedule.inFlight
  | .cancel => False

instance (schedule : Schedule) (op : Operation) : Decidable (schedule.Launches op) :=
  match op with
  | .start _ => .isTrue trivial
  | .complete id _ _ => inferInstanceAs (Decidable (id ∈ schedule.inFlight))
  | .cancel => .isFalse id

/-- The schedule once the completion that an operation brings is applied to its process. -/
def applied (schedule : Schedule) : Operation → Schedule
  | .complete id report _ =>
    match schedule.lifecycle? id.process with
    | none => schedule
    | some life => schedule.put (life.complete id.index report schedule.options.minDuration).1
  | .start _ | .cancel => schedule

/-- The attempt that follows a failure, unless it is the last that its process may have. -/
def retried (schedule : Schedule) : Operation → List AttemptId
  | .complete id report _ =>
    if report.outcome.isSuccess = true ∨ schedule.Exhausts id report then []
    else [⟨id.process, id.index + 1⟩]
  | .start _ | .cancel => []

variable {s t : Schedule} {life new : Lifecycle}

theorem Coherent.mem_startable (h : s.Coherent) {q : ProcessName} :
    q ∈ s.startable ↔ s.Startable q := by
  rw [startable, List.mem_filter, decide_eq_true_eq, and_iff_right_iff_imp]
  intro hq
  obtain ⟨life, hmem, rfl, _⟩ := (stateOf?_eq_some h.distinct).mp hq.1
  rw [← h.names]
  exact List.mem_map_of_mem hmem

/-- Until the decision the ready processes are those that the states tell. -/
theorem Active.readyNames_eq (ha : s.Active) (hc : s.Coherent) : s.readyNames = s.startable := by
  rw [readyNames, startable, ← hc.names, List.filter_map]
  refine congrArg (List.map _) (List.filter_congr fun life hmem => ?_)
  have hlisted : life.name ∈ s.task.processNames := hc.names ▸ List.mem_map_of_mem hmem
  have hstate : s.stateOf? life.name = some life.state :=
    (stateOf?_eq_some hc.distinct).mpr ⟨life, hmem, rfl, rfl⟩
  rw [Function.comp_apply, Bool.eq_iff_iff, decide_eq_true_eq, isReady_iff,
    ha.eligible_iff hc hlisted, ha.unblocked, Startable, hstate]
  simp

theorem nextLaunches_eq_openings (h : s.Sound) (undecided : s.decision = none) :
    s.nextLaunches = s.openings := by
  rw [nextLaunches, openings, (h.active undecided).readyNames_eq h.coherent]

/-! ## The limit -/

/-- No more processes are running than the limit allows. -/
def WithinLimit (schedule : Schedule) : Prop :=
  schedule.task.maxConcurrency ≠ 0 →
    schedule.runningCount ≤ schedule.task.maxConcurrency.toNat

theorem runningCount_congr (h : t.lifecycles = s.lifecycles) : t.runningCount = s.runningCount := by
  rw [runningCount, runningCount, h]

theorem runningCount_put_le (hd : s.Distinct) (new : Lifecycle) (hmem : life ∈ s.lifecycles)
    (hname : new.name = life.name) (hrunning : life.state = .running) :
    (s.put new).runningCount ≤ s.runningCount := by
  have hcount := put_countP hd hmem hname (fun l => l.state = .running)
  simp only [hrunning, decide_true, if_true] at hcount
  rw [runningCount, runningCount]
  split at hcount <;> omega

/-- Whatever becomes of a process that is running, it takes no further slot. -/
theorem WithinLimit.put (h : s.WithinLimit) (hc : s.Coherent) (new : Lifecycle)
    (hmem : life ∈ s.lifecycles) {index : UInt32} (hopen : life.openAttempt? = some index)
    (hspec : new.spec = life.spec) (htask : t.task = s.task)
    (hlives : t.lifecycles = (s.put new).lifecycles) : t.WithinLimit := by
  intro hlimit
  rw [htask] at hlimit ⊢
  rw [runningCount_congr hlives]
  exact (runningCount_put_le hc.distinct new hmem (Lifecycle.name_eq_of_spec hspec)
    ((hc.lifecycles life hmem).running_of_openAttempt? hopen)).trans (h hlimit)

end Schedule

open Schedule in
theorem Change.withinLimit {op : Operation} {s t : Schedule} {step : Step}
    (change : Change op s step t) (hc : s.Coherent) (h : s.WithinLimit) : t.WithinLimit := by
  cases change with
  | launch now _ mem ready room =>
    intro hlimit
    rw [runningCount_put_opened hc.distinct mem now ((isReady_iff s _).mp ready).1]
    exact room.resolve_left hlimit
  | @succeed life _ report _ _ _ mem opened _ =>
    exact h.put hc (life.succeeded report) mem opened rfl rfl rfl
  | @retry life _ report now _ _ mem opened _ _ _ =>
    exact h.put hc ((life.tolerated report).opened now) mem opened rfl rfl
      (lifecycles_retried s life report now)
  | @overrun life _ report _ _ _ mem opened _ _ _ =>
    exact h.put hc (life.tolerated report) mem opened rfl rfl rfl
  | @tolerate life _ report _ _ _ mem opened _ _ _ _
  | @exhaust life _ report _ _ _ mem opened _ _ _ _
  | @fatal life _ report _ _ _ mem opened _ _ _ =>
    exact h.put hc (life.givenUp report) mem opened rfl rfl rfl
  | @late life _ report _ _ _ mem opened =>
    exact h.put hc (life.closedLate report) mem opened rfl rfl rfl
  | cancel _ _ | conclude _ _ => exact h

namespace Schedule

variable {s t : Schedule} {life : Lifecycle} {index : UInt32} {report : Report} {now : Instant}
  {task : TaskSpec} {options : SchedulerOptions}

theorem Reachable.withinLimit (h : Reachable task options s) : s.WithinLimit := by
  refine h.keep (P := WithinLimit) ?_ fun change hsound => change.withinLimit hsound.coherent
  intro _
  have hnone : (initial task options).runningCount = 0 := by
    rw [runningCount, List.countP_eq_zero]
    intro life hmem
    simp [(initial_pending hmem).1]
  rw [hnone]
  exact Nat.zero_le _

/-! ## Completions -/

/-- The name and the state of each process, in declaration order. -/
def states (schedule : Schedule) : List (ProcessName × ProcessState) :=
  schedule.lifecycles.map fun life => (life.name, life.state)

theorem stateOf?_eq_states (s : Schedule) (p : ProcessName) :
    s.stateOf? p = (s.states.find? (·.1 = p)).map (·.2) := by
  simp [stateOf?, lifecycle?, states, List.find?_map, Function.comp_def]

theorem runningCount_eq_states (s : Schedule) :
    s.runningCount = s.states.countP (·.2 = .running) := by
  simp [runningCount, states, List.countP_map, Function.comp_def]

/-- What gets a slot depends on the states alone. -/
theorem openings_congr (htask : t.task = s.task) (hstates : t.states = s.states) :
    t.openings = s.openings := by
  have hstate (p : ProcessName) : t.stateOf? p = s.stateOf? p := by
    rw [stateOf?_eq_states, stateOf?_eq_states, hstates]
  have hstartable : t.startable = s.startable := by
    rw [startable, startable, htask]
    refine List.filter_congr fun q _ => decide_eq_decide.mpr ?_
    simp only [Startable, hstate, htask]
  rw [openings, openings, hstartable, runningCount_eq_states, runningCount_eq_states, hstates,
    htask]

theorem applied_eq (hd : s.Distinct) (hmem : life ∈ s.lifecycles) (index : UInt32)
    (report : Report) (now : Instant) :
    s.applied (.complete ⟨life.name, index⟩ report now) =
      s.put (life.complete index report s.options.minDuration).1 := by
  simp only [applied, lifecycle?_self hd hmem]

end Schedule

open Schedule in
/-- The change that closes an attempt launches what follows on a failure, and leaves to
be launched what the states say once the completion is applied. -/
theorem Change.applied {id : AttemptId} {report : Report} {now : Instant} {s t : Schedule}
    {step : Step} {more : List Transition} (change : Change (.complete id report now) s step t)
    (closes : step.transitions = Transition.closing id report :: more) (h : s.Coherent)
    (undecided : t.decision = none) :
    t.openings = (s.applied (.complete id report now)).openings ∧
      step.launchedIds = s.retried (.complete id report now) := by
  have hd := h.distinct
  cases change with
  | launch => simp [Transition.launch, Transition.closing] at closes
  | @succeed life index _ _ call _ mem opened success =>
    cases call
    have hcomplete := Lifecycle.complete_eq_ok_of_success s.options.minDuration opened success
    rw [applied_eq hd mem, hcomplete, retried, if_pos (Or.inl success)]
    exact ⟨openings_congr rfl rfl, rfl⟩
  | @retry life index _ _ call _ mem opened failure left _ =>
    cases call
    have hcomplete :=
      Lifecycle.complete_eq_ok_of_retry s.options.minDuration opened failure left
    have hmore : ¬ (report.outcome.isSuccess = true ∨ s.Exhausts ⟨life.name, index⟩ report) := by
      rw [failure, or_iff_right Bool.false_ne_true]
      exact h.not_exhausts mem opened left report
    rw [applied_eq hd mem, hcomplete, retried, if_neg hmore]
    refine ⟨openings_congr rfl ?_, rfl⟩
    -- Closing an attempt and launching the next one leaves the process running.
    have hrunning := (h.lifecycles life mem).running_of_openAttempt? opened
    have hput : (s.put (life.tolerated report)).Distinct := hd.put mem rfl
    have hname : ((life.tolerated report).opened now).name = (life.tolerated report).name := rfl
    exact put_map hput (mem_put_self hd mem rfl) hname _ (by simp [hname, hrunning])
  | @tolerate life index _ _ call _ mem opened failure last _ _ =>
    cases call
    have hcomplete := Lifecycle.complete_eq_ok_of_last s.options.minDuration opened failure last
    have hlast := (h.exhausts_iff mem opened report).mpr ⟨failure, last⟩
    rw [applied_eq hd mem, hcomplete, retried, if_pos (Or.inr hlast)]
    exact ⟨openings_congr rfl rfl, rfl⟩
  | late _ decided => exact absurd undecided decided
  | overrun | exhaust | fatal | cancel | conclude => cases undecided

/-- An attempt that follows on another is not the first. -/
theorem Lifecycle.Coherent.next_ne_zero {life : Lifecycle} (h : life.Coherent) {index : UInt32}
    (hopen : life.openAttempt? = some index) : index + 1 ≠ 0 := by
  intro hzero
  have hnext := h.next_toNat hopen
  rw [hzero] at hnext
  exact Nat.succ_ne_zero _ hnext.symm

namespace Schedule

variable {s : Schedule} {op : Operation} {task : TaskSpec} {options : SchedulerOptions}

theorem retried_ne_zero (h : s.Coherent) (hop : s.Launches op) :
    ∀ id ∈ s.retried op, id.index ≠ 0 := by
  cases op with
  | start now => simp [retried]
  | cancel => cases hop
  | complete id report now =>
    obtain ⟨life, hmem, _, hopen⟩ := mem_inFlight.mp hop
    intro next hnext
    rw [retried] at hnext
    split at hnext
    · cases hnext
    · rw [List.mem_singleton.mp hnext]
      exact (h.lifecycles life hmem).next_ne_zero hopen

/-! ## Operations -/

/-- What an operation launches that leaves the task undecided. -/
theorem apply_launchedIds (h : s.Sound) (hop : s.Launches op)
    (undecided : (s.apply op).1.decision = none) :
    (s.apply op).2.launchedIds = s.retried op ++ (s.applied op).openings.map (⟨·, 0⟩) := by
  cases op with
  | cancel => cases hop
  | start now =>
    have hnone := apply_undecided h undecided
    rw [apply_start hnone, Step.launchedIds, advance_launched now h hnone,
      nextLaunches_eq_openings h hnone]
    rfl
  | complete id report now =>
    obtain ⟨life, hmem, hname, hopen⟩ := mem_inFlight.mp hop
    obtain ⟨process, index⟩ := id
    subst hname
    have hfollowed : Followed ⟨life.name, index⟩ report now s _ :=
      complete_followed h.coherent hmem hopen
    rw [apply] at undecided ⊢
    generalize s.complete ⟨life.name, index⟩ report now = result at hfollowed undecided ⊢
    cases hfollowed with
    | decided _ _ decided => exact absurd undecided decided
    | advanced change closes hnone =>
      obtain ⟨hopenings, hretried⟩ := change.applied closes h.coherent hnone
      have hsound := change.sound h
      rw [Step.andThen_launchedIds, hretried, ← hopenings, Step.launchedIds,
        advance_launched now hsound hnone, nextLaunches_eq_openings hsound hnone]

/-! ## Between two operations -/

/-- A process that waits although it could start waits for a slot. -/
theorem Busy.full (hb : s.Busy) (h : s.Sound) (undecided : s.decision = none)
    (hwithin : s.WithinLimit) {q : ProcessName} (hq : s.Startable q) :
    s.task.maxConcurrency ≠ 0 ∧ s.runningCount = s.task.maxConcurrency.toNat := by
  have hmem := h.coherent.mem_startable.mpr hq
  have hnone := hb.launched
  rw [nextLaunches_eq_openings h undecided, openings] at hnone
  split at hnone
  · rw [hnone] at hmem
    cases hmem
  · next hlimit =>
    refine ⟨hlimit, Nat.le_antisymm (hwithin hlimit) ?_⟩
    rcases List.take_eq_nil_iff.mp hnone with hfull | hnil
    · exact Nat.sub_eq_zero_iff_le.mp hfull
    · rw [hnil] at hmem
      cases hmem

theorem Busy.start_eq (hb : s.Busy) (undecided : s.decision = none) (now : Instant) :
    s.start now = (s, {}) := by
  simp [start, advance, isDecided, undecided, launchWhileFree_of_none now hb.launched,
    concludeSettled, hb.outstanding]

/-- Each start, and each completion of an attempt in flight, that leaves the task
undecided launches the attempt that follows on a failure and then as many of the
startable processes, in declaration order, as there are slots for. So once the task
is started a process that could start waits only while the limit is reached, and
starting again does nothing. -/
theorem work_conserved (task : TaskSpec) (options : SchedulerOptions) (ops : List Operation) :
    let s := (initial task options).after ops
    (∀ op, s.Launches op → (s.apply op).1.decision = none →
      (s.apply op).2.launchedIds = s.retried op ++ (s.applied op).openings.map (⟨·, 0⟩) ∧
        ∀ id ∈ s.retried op, id.index ≠ 0) ∧
    ((∃ now, .start now ∈ ops) → s.decision = none →
      (∀ q, s.Startable q →
        task.maxConcurrency ≠ 0 ∧ s.runningCount = task.maxConcurrency.toNat) ∧
      ∀ now, s.start now = (s, {})) := by
  intro s
  have hreachable : Reachable task options s := ⟨ops, rfl⟩
  have hsound := hreachable.sound
  refine ⟨fun op hop undecided => ?_, ?_⟩
  · exact ⟨apply_launchedIds hsound hop undecided, retried_ne_zero hsound.coherent hop⟩
  · rintro ⟨now, hstart⟩ undecided
    have hbusy : s.Busy := after_start_busy hstart undecided
    refine ⟨fun q hq => ?_, hbusy.start_eq undecided⟩
    rw [← hreachable.task_eq]
    exact hbusy.full hsound undecided hreachable.withinLimit hq

/-- `second` waits for the one slot while `first` is tried, and tried again; it gets the
slot once `first` has succeeded. -/
theorem work_conserved_unordered :
    let s := (initial .unordered {}).after [.start ⟨0⟩]
    let failure : Operation := .complete ⟨"first", 0⟩ ⟨.noExitCode, ⟨0⟩, ⟨1⟩⟩ ⟨1⟩
    let success : Operation := .complete ⟨"first", 0⟩ ⟨.success, ⟨0⟩, ⟨1⟩⟩ ⟨1⟩
    (s.Launches failure ∧ (s.apply failure).1.decision = none ∧
      (s.apply failure).2.launchedIds = [⟨"first", 1⟩]) ∧
    (s.Launches success ∧ (s.apply success).1.decision = none ∧
      (s.apply success).2.launchedIds = [⟨"second", 0⟩]) ∧
    s.decision = none ∧ s.Startable "second" ∧ s.runningCount = 1 ∧ s.start ⟨7⟩ = (s, {}) := by
  intro s failure success
  obtain ⟨hlaunches, hwaits⟩ := work_conserved .unordered {} [.start ⟨0⟩]
  have hfailure : s.Launches failure := by decide
  have hsuccess : s.Launches success := by decide
  have hstartable : s.Startable "second" := by decide
  obtain ⟨hfull, hagain⟩ := hwaits ⟨⟨0⟩, by decide⟩ rfl
  refine ⟨⟨hfailure, rfl, ?_⟩, ⟨hsuccess, rfl, ?_⟩, rfl, hstartable, ?_, hagain ⟨7⟩⟩
  · exact (hlaunches failure hfailure rfl).1.trans (by decide)
  · exact (hlaunches success hsuccess rfl).1.trans (by decide)
  · exact (hfull "second" hstartable).2

end Schedule

end Overseer
