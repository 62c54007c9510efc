import Overseer.Proofs.Schedule.Completions
import Overseer.Proofs.Schedule.Liveness

/-!
# What a task will come to

A `Prediction` says how each attempt will turn out, should it be launched. It
says with it how often each process fails and whether the task can succeed,
whatever order the attempts end in: `Prediction.Favourable` does not look at any
schedule.

A lifecycle that follows the prediction never counts more failures than are
predicted, and exactly those once it has come to its end. So the budget of a
schedule is at most the predicted one, and equal to it when all is settled.

Results:
1. `Follows.failures_le`, `Follows.of_success`, `Follows.of_exhausted`: one process.
2. `Schedule.counted_le`, `Schedule.counted_eq`: all processes together.
3. `Schedule.Accounted.exceeded_iff`: when the budget is exceeded.
-/

namespace Overseer

/-- The most attempts that a task may take. -/
def TaskSpec.allowance (task : TaskSpec) : Nat := (task.processes.map (·.maxFailures.toNat)).sum

/-- How each attempt will turn out. -/
def Prediction := AttemptId → Outcome

namespace Prediction

variable (prediction : Prediction)

/-- Whether attempt number `n` of a process will succeed. -/
def succeedsAt (spec : ProcessSpec) (n : Nat) : Bool :=
  (prediction ⟨spec.name, UInt32.ofNat n⟩).isSuccess

/-- Whether a process will succeed before it has failed too often. -/
def succeeds (spec : ProcessSpec) : Bool :=
  (List.range spec.maxFailures.toNat).any (prediction.succeedsAt spec)

/-- The failures of a process before its first success, at most all it may have. -/
def failures (spec : ProcessSpec) : Nat :=
  (List.range spec.maxFailures.toNat).findIdx (prediction.succeedsAt spec)

/-- The attempts of a process that is carried through. -/
def attempts (spec : ProcessSpec) : Nat :=
  if prediction.succeeds spec then prediction.failures spec + 1 else prediction.failures spec

/-- What the budget of a task will count. -/
def failureCount (task : TaskSpec) : FailureCounting → Nat
  | .processes => task.processes.countP fun spec => !prediction.succeeds spec
  | .attempts => (task.processes.map prediction.failures).sum

/-- The task will succeed: what others wait for does, and the budget suffices. -/
structure Favourable (task : TaskSpec) (counting : FailureCounting) : Prop where
  needed : ∀ spec ∈ task.processes, task.HasDependents spec.name →
    prediction.succeeds spec = true
  within : task.maxFailures = 0 ∨
    prediction.failureCount task counting ≤ task.maxFailures.toNat

variable {prediction : Prediction} {spec : ProcessSpec}

/-! ## One process -/

theorem failures_le : prediction.failures spec ≤ spec.maxFailures.toNat := by
  have h : prediction.failures spec ≤ (List.range spec.maxFailures.toNat).length :=
    List.findIdx_le_length
  rwa [List.length_range] at h

theorem le_failures {k : Nat} (hk : k ≤ spec.maxFailures.toNat)
    (hfails : ∀ n < k, prediction.succeedsAt spec n = false) : k ≤ prediction.failures spec := by
  -- Otherwise the first success would be among the first `k` attempts.
  by_contra hlt
  rw [Nat.not_le] at hlt
  have hbound : (List.range spec.maxFailures.toNat).findIdx (prediction.succeedsAt spec) <
      (List.range spec.maxFailures.toNat).length := by
    rw [List.length_range]
    exact Nat.lt_of_lt_of_le hlt hk
  have hsuccess := List.findIdx_getElem (w := hbound)
  have hfailure := hfails _ hlt
  rw [failures] at hfailure
  rw [List.getElem_range, hfailure] at hsuccess
  cases hsuccess

theorem of_first_success {k : Nat} (hk : k < spec.maxFailures.toNat)
    (hfails : ∀ n < k, prediction.succeedsAt spec n = false)
    (hsuccess : prediction.succeedsAt spec k = true) :
    prediction.succeeds spec = true ∧ prediction.failures spec = k := by
  refine ⟨List.any_eq_true.mpr ⟨k, List.mem_range.mpr hk, hsuccess⟩, ?_⟩
  have hlength : k < (List.range spec.maxFailures.toNat).length := by rwa [List.length_range]
  refine (List.findIdx_eq hlength).mpr ⟨?_, fun n hn => ?_⟩
  · rwa [List.getElem_range]
  · rw [List.getElem_range]
    exact hfails n hn

theorem of_no_success
    (hfails : ∀ n < spec.maxFailures.toNat, prediction.succeedsAt spec n = false) :
    prediction.succeeds spec = false ∧ prediction.failures spec = spec.maxFailures.toNat := by
  refine ⟨List.any_eq_false.mpr fun n hn => ?_, ?_⟩
  · rw [hfails n (List.mem_range.mp hn)]
    decide
  · exact Nat.le_antisymm failures_le (le_failures (Nat.le_refl _) hfails)

def Foretells (prediction : Prediction) (id : AttemptId) (report : Report) : Prop :=
  report.outcome = prediction id

/-- The closed runs of a process turned out as predicted. -/
def Follows (prediction : Prediction) (life : Lifecycle) : Prop :=
  ∀ run ∈ life.runs, ∀ report met, run.phase = .ended report met →
    prediction.Foretells run.id report

namespace Follows

variable {life : Lifecycle}

theorem isSuccess (h : prediction.Follows life) {run : Run} (hrun : run ∈ life.runs) :
    (run.state = .failed → (prediction run.id).isSuccess = false) ∧
      (run.state = .success → (prediction run.id).isSuccess = true) := by
  cases hphase : run.phase with
  | inFlight now => simp [Run.state, hphase]
  | ended report met =>
    rw [← show report.outcome = prediction run.id from h run hrun report met hphase]
    simp only [Run.state, hphase]
    exact ⟨Outcome.runState_eq_failed.mp, Outcome.runState_eq_success.mp⟩

/-- Attempts whose runs failed are predicted to fail. -/
theorem succeedsAt_eq_false (h : prediction.Follows life) (hc : life.Coherent)
    {earlier rest : List Run} (hruns : life.runs = earlier ++ rest)
    (hfailed : ∀ run ∈ earlier, run.state = .failed) :
    ∀ n < earlier.length, prediction.succeedsAt life.spec n = false := by
  intro n hn
  have hlt : n < life.runs.length := by
    rw [hruns, List.length_append]
    omega
  have hsame : life.runs[n] = earlier[n] := by
    simp only [hruns]
    exact List.getElem_append_left hn
  have hfails := (h.isSuccess (List.getElem_mem hlt)).1
    (hsame ▸ hfailed _ (List.getElem_mem hn))
  rwa [hc.getElem_id hlt] at hfails

/-- The failures counted so far are predicted. -/
theorem failures_le (h : prediction.Follows life) (hc : life.Coherent)
    (hlimit : life.limit = life.spec.maxFailures.toNat) :
    life.failures.toNat ≤ prediction.failures life.spec := by
  cases hc.stage with
  | pending _ _ failures => simp [failures]
  | launched earlier last runs failed below ending =>
    rw [hlimit] at below
    have hearlier := h.succeedsAt_eq_false hc runs failed
    cases ending with
    | inFlight _ _ failures | succeeded _ _ failures | closedLate _ _ failures =>
      rw [failures]
      exact Prediction.le_failures below.le hearlier
    -- The failure of the last run is counted as well.
    | waiting hlast _ failures _ | givenUp hlast _ failures _ =>
      have hall := h.succeedsAt_eq_false hc (runs.trans (List.append_nil _).symm)
        (List.forall_mem_append.mpr ⟨failed, List.forall_mem_singleton.mpr hlast⟩)
      rw [failures]
      refine Prediction.le_failures below ?_
      simpa using hall

/-- A process that has succeeded was predicted to, after the failures that it had. -/
theorem of_success (h : prediction.Follows life) (hc : life.Coherent)
    (hlimit : life.limit = life.spec.maxFailures.toNat) (hstate : life.state = .success) :
    prediction.succeeds life.spec = true ∧ prediction.failures life.spec = life.failures.toNat ∧
      life.runs.length = prediction.attempts life.spec := by
  cases hc.stage with
  | pending state _ _ => rw [state] at hstate; cases hstate
  | launched earlier last runs failed below ending =>
    cases ending with
    | inFlight _ state _ | waiting _ state _ _ | givenUp _ state _ _ | closedLate _ state _ =>
      rw [state] at hstate
      cases hstate
    | succeeded success _ failures =>
      have hlt : earlier.length < life.runs.length := by simp [runs]
      have hlast : life.runs[earlier.length] = last := by simp [runs]
      have hsuccess := (h.isSuccess (List.getElem_mem hlt)).2 (by rw [hlast, success])
      rw [hc.getElem_id hlt] at hsuccess
      obtain ⟨hsucceeds, hfailures⟩ := Prediction.of_first_success (hlimit ▸ below)
        (h.succeedsAt_eq_false hc runs failed) hsuccess
      refine ⟨hsucceeds, by rw [hfailures, failures], ?_⟩
      rw [attempts, if_pos hsucceeds, hfailures, runs, List.length_append, List.length_singleton]

/-- A process that has failed as often as it may was predicted to. -/
theorem of_exhausted (h : prediction.Follows life) (hc : life.Coherent)
    (hlimit : life.limit = life.spec.maxFailures.toNat) (hstate : life.state = .failed)
    (hexhausted : life.failures.toNat = life.limit) :
    prediction.succeeds life.spec = false ∧ prediction.failures life.spec = life.failures.toNat ∧
      life.runs.length = prediction.attempts life.spec := by
  cases hc.stage with
  | pending state _ _ => rw [state] at hstate; cases hstate
  | launched earlier last runs failed below ending =>
    cases ending with
    | inFlight _ state _ | waiting _ state _ _ | succeeded _ state _ =>
      rw [state] at hstate
      cases hstate
    | closedLate _ _ failures => omega
    | givenUp hlast _ failures reached =>
      have hlength : life.runs.length = life.limit := by
        rw [runs, List.length_append, List.length_singleton, reached]
      have hall := h.succeedsAt_eq_false hc (runs.trans (List.append_nil _).symm)
        (List.forall_mem_append.mpr ⟨failed, List.forall_mem_singleton.mpr hlast⟩)
      rw [← runs, hlength, hlimit] at hall
      obtain ⟨hsucceeds, hfailures⟩ := Prediction.of_no_success hall
      refine ⟨hsucceeds, by rw [hfailures, hexhausted, hlimit], ?_⟩
      rw [attempts, if_neg (by simp [hsucceeds]), hfailures, hlength, hlimit]

/-- What a process that has come to its end was predicted to come to. -/
theorem of_terminal (h : prediction.Follows life) (hc : life.Coherent)
    (hlimit : life.limit = life.spec.maxFailures.toNat)
    (hexhausted : life.state = .failed → life.failures.toNat = life.limit)
    (hterminal : life.state.isTerminal = true) :
    life.state = (if prediction.succeeds life.spec then .success else .failed) ∧
      prediction.failures life.spec = life.failures.toNat ∧
      life.runs.length = prediction.attempts life.spec := by
  cases hstate : life.state with
  | pending | running => rw [hstate] at hterminal; cases hterminal
  | success =>
    obtain ⟨hsucceeds, hrest⟩ := h.of_success hc hlimit hstate
    exact ⟨by rw [if_pos hsucceeds], hrest⟩
  | failed =>
    obtain ⟨hfails, hrest⟩ := h.of_exhausted hc hlimit hstate (hexhausted hstate)
    exact ⟨by rw [if_neg (by simp [hfails])], hrest⟩

end Follows

/-! ## All processes together -/

/-- Every process may fail at least once. -/
theorem length_le_allowance (task : TaskSpec) : task.processes.length ≤ task.allowance := by
  rw [TaskSpec.allowance, ← List.length_map (·.maxFailures.toNat)]
  refine List.length_le_sum_of_one_le _ fun allowed hallowed => ?_
  obtain ⟨spec, hspec, rfl⟩ := List.mem_map.mp hallowed
  exact Nat.pos_of_ne_zero fun hzero => task.maxFailures_ne_zero hspec (UInt32.toNat_inj.mp hzero)

theorem failureCount_le (prediction : Prediction) (task : TaskSpec)
    (counting : FailureCounting) :
    prediction.failureCount task counting ≤ task.allowance := by
  cases counting with
  | processes => exact List.countP_le_length.trans (length_le_allowance task)
  | attempts => exact List.sum_le_sum fun _ _ => failures_le

end Prediction

namespace Schedule

variable {s : Schedule} {prediction : Prediction}

/-- What the budget should have counted so far. -/
def counted (schedule : Schedule) : FailureCounting → Nat
  | .processes => schedule.failedCount
  | .attempts => schedule.failureSum

theorem counted_le (h : s.Coherent) (ha : s.Accounted)
    (hforetold : s.Reported prediction.Foretells) (counting : FailureCounting) :
    s.counted counting ≤ prediction.failureCount s.task counting := by
  cases counting with
  | processes =>
    rw [Prediction.failureCount, ← h.specs, List.countP_map]
    refine List.countP_mono_left fun life hmem hfailed => ?_
    have hstate := of_decide_eq_true hfailed
    have hfollows : prediction.Follows life := hforetold life hmem
    have hout := hfollows.of_exhausted (h.lifecycles life hmem) (h.limit_eq hmem) hstate
      (ha.exhausted life hmem hstate)
    simpa using hout.1
  | attempts =>
    rw [Prediction.failureCount, ← h.specs, List.map_map]
    refine List.sum_le_sum fun life hmem => ?_
    have hfollows : prediction.Follows life := hforetold life hmem
    exact hfollows.failures_le (h.lifecycles life hmem) (h.limit_eq hmem)

/-- Once all is settled the predicted count is reached. -/
theorem counted_eq (h : s.Coherent) (ha : s.Accounted)
    (hforetold : s.Reported prediction.Foretells) (hsettled : s.Settled)
    (counting : FailureCounting) :
    s.counted counting = prediction.failureCount s.task counting := by
  have hended : ∀ life ∈ s.lifecycles,
      life.state = (if prediction.succeeds life.spec then .success else .failed) ∧
        prediction.failures life.spec = life.failures.toNat := by
    intro life hmem
    have hfollows : prediction.Follows life := hforetold life hmem
    obtain ⟨hstate, hfailures, _⟩ := hfollows.of_terminal (h.lifecycles life hmem)
      (h.limit_eq hmem) (ha.exhausted life hmem) (hsettled life hmem)
    exact ⟨hstate, hfailures⟩
  cases counting with
  | processes =>
    rw [Prediction.failureCount, ← h.specs, List.countP_map]
    refine List.countP_congr fun life hmem => ?_
    rw [(hended life hmem).1]
    cases hsucceeds : prediction.succeeds life.spec <;> simp [hsucceeds]
  | attempts =>
    rw [Prediction.failureCount, ← h.specs, List.map_map]
    refine congrArg List.sum (List.map_congr_left fun life hmem => ?_)
    exact (hended life hmem).2.symm

theorem Accounted.exceeded_iff (h : s.Accounted) (hfits : s.counted s.options.counting < 2 ^ 32) :
    s.budget.exceeded = true ↔
      s.task.maxFailures ≠ 0 ∧ s.task.maxFailures.toNat < s.counted s.options.counting := by
  have hcount : s.tally.count = UInt32.ofNat (s.counted s.options.counting) := by
    cases hcounting : s.options.counting <;>
      simp [FailureBudget.count, tally, counted, hcounting]
  have hnat : s.tally.count.toNat = s.counted s.options.counting := by
    rw [hcount, UInt32.toNat_ofNat_of_lt' hfits]
  rw [h.budget, FailureBudget.exceeded, Bool.and_eq_true, decide_eq_true_eq, decide_eq_true_eq,
    UInt32.lt_iff_toNat_lt, hnat]
  rfl

end Schedule

end Overseer
