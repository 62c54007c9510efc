import Overseer.Proofs.Schedule.Prediction

/-!
# How the views of a schedule agree

What became of a process is kept in three places: its lifecycle, the progress and
the budget. Until the task is decided they agree. The progress knows the failed
processes, and calls a process eligible exactly when all that it waits for has
succeeded. The two counters of the budget are the numbers of failed processes and
of failed runs in the records, as long as these fit into 32 bits.

Results:
1. `Change.tracked`, `Reachable.tracked`: the progress knows what has failed.
2. `recordedFailures_eq`: the counted failures are the failed runs.
3. `Reachable.agreement`: all the views together.
-/

namespace Overseer

namespace Schedule

/-- The processes that the progress has as failed are those that have failed. -/
def Tracked (schedule : Schedule) : Prop :=
  ∀ p, p ∈ schedule.progress.failed ↔
    ∃ life ∈ schedule.lifecycles, life.name = p ∧ life.state = .failed

/-- The failed runs in the records. -/
def recordedFailures (schedule : Schedule) : Nat :=
  (schedule.records.flatMap (·.2)).countP (·.state = .failed)

/-- Progress and budget say of the processes what their lifecycles say. -/
structure Agreement (schedule : Schedule) : Prop where
  failed : ∀ p, schedule.progress.hasFailed p = true ↔ schedule.stateOf? p = some .failed
  eligible : ∀ q ∈ schedule.task.processNames,
    (schedule.progress.eligible schedule.task.precedence q = true ↔
      ∀ p, schedule.task.Requires p q → schedule.stateOf? p = some .success)
  unblocked : ∀ p, schedule.progress.isBlocked p = false
  unneeded : ∀ p, schedule.stateOf? p = some .failed → ¬ schedule.task.HasDependents p
  failedProcesses : schedule.budget.failedProcesses.toNat = schedule.failedCount
  failedAttempts : schedule.budget.failedAttempts.toNat = schedule.failureSum
  failedRuns : schedule.failureSum = schedule.recordedFailures
  within : schedule.budget.exceeded = false

variable {s t : Schedule} {life new : Lifecycle}

/-! ## Failed processes -/

/-- A change of one lifecycle keeps track, if a failure is noted in the progress. -/
theorem Tracked.replace (h : s.Tracked) (hd : s.Distinct) (new : Lifecycle)
    (hmem : life ∈ s.lifecycles) (hname : new.name = life.name) (hlive : life.state ≠ .failed)
    (hlives : t.lifecycles = (s.put new).lifecycles)
    (hfailed : ∀ p, p ∈ t.progress.failed ↔
      p ∈ s.progress.failed ∨ (new.state = .failed ∧ p = life.name)) : t.Tracked := by
  intro p
  rw [hfailed, h p, hlives]
  constructor
  · rintro (⟨other, hother, rfl, hstate⟩ | ⟨hstate, rfl⟩)
    · have hne : other ≠ life := fun heq => hlive (heq ▸ hstate)
      exact ⟨other, (mem_put hd hmem hname).mpr (Or.inr ⟨hother, hne⟩), rfl, hstate⟩
    · exact ⟨new, mem_put_self hd hmem hname, hname, hstate⟩
  · rintro ⟨other, hother, rfl, hstate⟩
    rcases of_mem_put hother hd hmem hname with rfl | ⟨hold, _⟩
    · exact Or.inr ⟨hstate, hname⟩
    · exact Or.inl ⟨other, hold, rfl, hstate⟩

end Schedule

open Schedule in
theorem Change.tracked {op : Operation} {s t : Schedule} {step : Step}
    (change : Change op s step t) (h : s.Coherent) (hs : s.decision = none → s.Tracked)
    (undecided : t.decision = none) : t.Tracked := by
  have hnone := change.undecided undecided
  have htracked := hs hnone
  have hd := h.distinct
  cases change with
  | @launch life now _ mem ready _ =>
    have hpending := ((isReady_iff _ _).mp ready).1
    exact htracked.replace hd (life.opened now) mem rfl (by rw [hpending]; decide) rfl (by simp)
  | @succeed life index report now _ _ mem opened _ =>
    have hlive := (h.lifecycles life mem).live_of_openAttempt? opened
    exact htracked.replace hd (life.succeeded report) mem rfl hlive rfl
      (by simp [noteSuccess])
  | @retry life index report now _ _ mem opened _ _ _ =>
    have hlive := (h.lifecycles life mem).live_of_openAttempt? opened
    exact htracked.replace hd ((life.tolerated report).opened now) mem rfl hlive
      (lifecycles_retried s life report now) (by simp)
  | @tolerate life index report now _ _ mem opened _ _ _ _ =>
    have hlive := (h.lifecycles life mem).live_of_openAttempt? opened
    refine htracked.replace hd (life.givenUp report) mem rfl hlive rfl ?_
    intro p
    rw [noteFailure, Progress.mem_failed_recordFailure (h.name_mem_order mem)]
    simp
  | late _ decided => exact absurd hnone decided
  | overrun | exhaust | fatal | cancel | conclude => cases undecided

namespace Schedule

variable {s : Schedule}

/-! ## Eligible processes -/

/-- Eligible is what waits for nothing that has not succeeded. -/
theorem Active.eligible_iff (ha : s.Active) (hc : s.Coherent) {q : ProcessName}
    (hq : q ∈ s.task.processNames) :
    s.progress.eligible s.task.precedence q = true ↔
      ∀ p, s.task.Requires p q → s.stateOf? p = some .success := by
  have hlisted := (s.task.precedence_sound.mem_order q).mpr hq
  rw [Schedule.eligible_iff]
  refine ⟨fun heligible p hp => hc.stateOf?_of_succeeded (heligible.2 p hp), fun hall => ?_⟩
  refine ⟨hlisted, fun p hp => ?_⟩
  obtain ⟨life, hmem, rfl, hstate⟩ := (stateOf?_eq_some hc.distinct).mp (hall p hp)
  exact ha.succeeded life hmem hstate

/-! ## Failed runs -/

/-- The failures counted so far are the failed runs in the records. -/
theorem recordedFailures_eq (h : s.Coherent) (ha : s.Accounted) :
    s.recordedFailures = s.failureSum := by
  rw [recordedFailures, (recordedRuns_perm s).countP_eq, List.countP_flatMap, failureSum]
  refine congrArg List.sum (List.map_congr_left fun life hmem => ?_)
  exact (h.lifecycles life hmem).failed_runs (ha.exhausted life hmem)

theorem failureSum_le (h : s.Coherent) (ha : s.Accounted) : s.failureSum ≤ s.task.allowance := by
  rw [failureSum, TaskSpec.allowance, ← h.specs, List.map_map]
  refine List.sum_le_sum fun life hmem => ?_
  have hlife := h.lifecycles life hmem
  calc life.failures.toNat
      = life.runs.countP (·.state = .failed) := (hlife.failed_runs (ha.exhausted life hmem)).symm
    _ ≤ life.runs.length := List.countP_le_length
    _ ≤ life.limit := hlife.length_le
    _ = life.spec.maxFailures.toNat := h.limit_eq hmem

theorem failedCount_le (h : s.Coherent) : s.failedCount ≤ s.task.allowance := by
  have hlength : s.lifecycles.length = s.task.processes.length := by
    rw [← h.specs, List.length_map]
  calc s.failedCount
      ≤ s.lifecycles.length := List.countP_le_length
    _ = s.task.processes.length := hlength
    _ ≤ s.task.allowance := Prediction.length_le_allowance s.task

/-! ## Runs -/

variable {task : TaskSpec} {options : SchedulerOptions}

theorem Reachable.tracked (h : Reachable task options s) (undecided : s.decision = none) :
    s.Tracked := by
  refine h.keep (P := fun s => s.decision = none → s.Tracked) ?_ ?_ undecided
  · intro _ p
    refine ⟨fun hp => absurd hp List.not_mem_nil, ?_⟩
    rintro ⟨life, hmem, _, hstate⟩
    rw [(initial_pending hmem).1] at hstate
    cases hstate
  · exact fun change hsound hs => change.tracked hsound.coherent hs

/-- Until the decision all that is kept about the processes agrees. -/
theorem Reachable.agreement (h : Reachable task options s) (undecided : s.decision = none)
    (fits : task.allowance < 2 ^ 32) : s.Agreement := by
  have hc := h.sound.coherent
  have ha := h.sound.active undecided
  rw [← h.task_eq] at fits
  refine ⟨fun p => ?_, fun q hq => ?_, fun p => ?_, ?_, ?_, ?_, ?_, ha.within⟩
  · rw [Progress.hasFailed, decide_eq_true_eq, h.tracked undecided p, stateOf?_eq_some hc.distinct]
  · exact ha.eligible_iff hc hq
  · simp [Progress.isBlocked, ha.unblocked]
  · intro p hp
    obtain ⟨life, hmem, rfl, hstate⟩ := (stateOf?_eq_some hc.distinct).mp hp
    exact ha.unneeded life hmem hstate
  · have hfits := Nat.lt_of_le_of_lt (failedCount_le hc) fits
    rw [ha.accounted.budget, tally, UInt32.toNat_ofNat_of_lt' hfits]
  · have hfits := Nat.lt_of_le_of_lt (failureSum_le hc ha.accounted) fits
    rw [ha.accounted.budget, tally, UInt32.toNat_ofNat_of_lt' hfits]
  · exact (recordedFailures_eq hc ha.accounted).symm

/-- After one failure of `first` the process is tried again: an attempt has failed,
but no process has. -/
theorem Reachable.agreement_pair :
    let s := (initial .pair {}).after
      [.start ⟨0⟩, .complete ⟨"first", 0⟩ ⟨.noExitCode, ⟨0⟩, ⟨1⟩⟩ ⟨1⟩]
    s.decision = none ∧ TaskSpec.pair.allowance < 2 ^ 32 ∧ s.Agreement ∧
      s.budget.failedProcesses = 0 ∧ s.budget.failedAttempts = 1 :=
  have undecided : ((initial .pair {}).after
      [.start ⟨0⟩, .complete ⟨"first", 0⟩ ⟨.noExitCode, ⟨0⟩, ⟨1⟩⟩ ⟨1⟩]).decision = none := by rfl
  have fits : TaskSpec.pair.allowance < 2 ^ 32 := by decide
  ⟨undecided, fits, Reachable.agreement ⟨_, rfl⟩ undecided fits, by rfl, by rfl⟩

end Schedule

end Overseer
