import Overseer.Lifecycle
import Mathlib

/-!
# Stages of a process

What the operations of a `Lifecycle` do when they are not refused, each as a
plain function, and the invariant `Lifecycle.Coherent` that they keep: the runs
are numbered from zero, all but the last have failed, there are never more of
them than the process may fail, and the state says how the last one stands.

Results:
1. `launch_eq_ok`, `complete_eq_ok_of_success`, `complete_eq_ok_of_retry`,
   `complete_eq_ok_of_last`, `completeLate_eq_ok`: the accepted inputs;
   `complete_refused`, `completeLate_refused`: all other completions.
2. `Coherent.opened`, `Coherent.succeeded`, `Coherent.tolerated`,
   `Coherent.givenUp`, `Coherent.closedLate`: the invariant is kept.
3. `Coherent.inFlight`, `Coherent.indices`, `Coherent.failed_runs`: what it says.
-/

namespace Overseer

namespace Run

@[simp] theorem close_id (run : Run) (report : Report) (minDuration : Span) :
    (run.close report minDuration).id = run.id := rfl

@[simp] theorem close_isOpen (run : Run) (report : Report) (minDuration : Span) :
    (run.close report minDuration).isOpen = false := rfl

@[simp] theorem close_state (run : Run) (report : Report) (minDuration : Span) :
    (run.close report minDuration).state = report.outcome.runState := rfl

@[simp] theorem launched_id (id : AttemptId) (now : Instant) : (launched id now).id = id := rfl

@[simp] theorem launched_isOpen (id : AttemptId) (now : Instant) :
    (launched id now).isOpen = true := rfl

theorem isOpen_iff (run : Run) : run.isOpen = true ↔ run.state = .running := by
  obtain ⟨id, phase⟩ := run
  cases phase with
  | inFlight now => simp [isOpen, state]
  | ended report met => cases hout : report.outcome <;> simp [isOpen, state, Outcome.runState, hout]

end Run

theorem Outcome.runState_eq_success {outcome : Outcome} :
    outcome.runState = .success ↔ outcome.isSuccess = true := by
  cases outcome <;> simp [runState, isSuccess]

theorem Outcome.runState_eq_failed {outcome : Outcome} :
    outcome.runState = .failed ↔ outcome.isSuccess = false := by
  cases outcome <;> simp [runState, isSuccess]

namespace Lifecycle

/-! ## What the operations do -/

/-- The name of the next attempt. -/
def nextId (life : Lifecycle) : AttemptId := ⟨life.name, UInt32.ofNat life.runs.length⟩

/-- After a launch. -/
def opened (life : Lifecycle) (now : Instant) : Lifecycle :=
  { life with runs := life.runs ++ [Run.launched life.nextId now], state := .running }

/-- The runs after the open one is closed. -/
def closedRuns (life : Lifecycle) (report : Report) : List Run :=
  life.runs.dropLast ++ (life.openRun?.map (·.close report life.spec.minDuration)).toList

/-- After a success. -/
def succeeded (life : Lifecycle) (report : Report) : Lifecycle :=
  { life with runs := life.closedRuns report, state := .success }

/-- After a failure that is to be retried. -/
def tolerated (life : Lifecycle) (report : Report) : Lifecycle :=
  { life with runs := life.closedRuns report, failures := life.failures + 1 }

/-- After the last failure. -/
def givenUp (life : Lifecycle) (report : Report) : Lifecycle :=
  { life with runs := life.closedRuns report, failures := life.failures + 1, state := .failed }

/-- After a completion that comes when the task is decided. -/
def closedLate (life : Lifecycle) (report : Report) : Lifecycle :=
  { life with runs := life.closedRuns report, state := report.outcome.runState }

section Fields

variable (life : Lifecycle) (report : Report) (now : Instant)

@[simp] theorem opened_spec : (life.opened now).spec = life.spec := rfl
@[simp] theorem opened_state : (life.opened now).state = .running := rfl
@[simp] theorem opened_failures : (life.opened now).failures = life.failures := rfl
@[simp] theorem succeeded_spec : (life.succeeded report).spec = life.spec := rfl
@[simp] theorem succeeded_state : (life.succeeded report).state = .success := rfl
@[simp] theorem succeeded_failures : (life.succeeded report).failures = life.failures := rfl
@[simp] theorem tolerated_spec : (life.tolerated report).spec = life.spec := rfl
@[simp] theorem tolerated_state : (life.tolerated report).state = life.state := rfl
@[simp] theorem tolerated_failures :
    (life.tolerated report).failures = life.failures + 1 := rfl
@[simp] theorem givenUp_spec : (life.givenUp report).spec = life.spec := rfl
@[simp] theorem givenUp_state : (life.givenUp report).state = .failed := rfl
@[simp] theorem givenUp_failures : (life.givenUp report).failures = life.failures + 1 := rfl
@[simp] theorem closedLate_spec : (life.closedLate report).spec = life.spec := rfl
@[simp] theorem closedLate_state :
    (life.closedLate report).state = report.outcome.runState := rfl
@[simp] theorem closedLate_failures : (life.closedLate report).failures = life.failures := rfl

end Fields

theorem name_eq_of_spec {a b : Lifecycle} (h : a.spec = b.spec) : a.name = b.name := by
  rw [name, name, h]

theorem openRun?_of_openAttempt? {life : Lifecycle} {index : UInt32}
    (h : life.openAttempt? = some index) :
    ∃ run, life.openRun? = some run ∧ run.id.index = index := by
  simpa [openAttempt?, Option.map_eq_some_iff] using h

theorem runs_ne_nil_of_openAttempt? {life : Lifecycle} {index : UInt32}
    (hopen : life.openAttempt? = some index) : life.runs ≠ [] := by
  intro hnil
  simp [openAttempt?, openRun?, hnil] at hopen

theorem launch_eq_ok {life : Lifecycle} (now : Instant) (hlive : life.state.isTerminal = false)
    (hidle : life.openAttempt? = none) :
    life.launch now = (life.opened now, .ok (Transition.launch life.nextId now)) := by
  simp [launch, hlive, hidle, opened, nextId]

theorem closeRun_eq_ok {life : Lifecycle} {index : UInt32} (report : Report)
    (h : life.openAttempt? = some index) :
    life.closeRun index report =
      ({ life with runs := life.closedRuns report },
        .ok (Transition.closing ⟨life.name, index⟩ report)) := by
  obtain ⟨run, hrun, hindex⟩ := openRun?_of_openAttempt? h
  simp [closeRun, closedRuns, hrun, hindex]

theorem closeRun_refused {life : Lifecycle} {index : UInt32} (report : Report)
    (h : life.openAttempt? ≠ some index) :
    ∃ refusal, life.closeRun index report = (life, .error refusal) := by
  unfold closeRun
  cases hrun : life.openRun? with
  | none =>
    simp only
    split
    · exact ⟨_, rfl⟩
    · exact ⟨_, rfl⟩
  | some run =>
    have hne : run.id.index ≠ index := by
      intro heq
      exact h (by simp [openAttempt?, hrun, heq])
    simp [hne]

theorem complete_eq_ok_of_success {life : Lifecycle} {index : UInt32} {report : Report}
    (policy : MinDurationPolicy) (hopen : life.openAttempt? = some index)
    (hsuccess : report.outcome.isSuccess = true) :
    life.complete index report policy =
      (life.succeeded report,
        .ok (Transition.closing ⟨life.name, index⟩ report, .succeeded)) := by
  simp [complete, closeRun_eq_ok report hopen, hsuccess, succeeded]

theorem complete_eq_ok_of_retry {life : Lifecycle} {index : UInt32} {report : Report}
    (policy : MinDurationPolicy) (hopen : life.openAttempt? = some index)
    (hfailure : report.outcome.isSuccess = false)
    (hleft : life.failures + 1 < life.failureLimit) :
    life.complete index report policy =
      (life.tolerated report, .ok (Transition.closing ⟨life.name, index⟩ report,
        .retry (index + 1) (life.restartDelay report policy))) := by
  have hlimit : ¬ life.failureLimit ≤ life.failures + 1 := by simpa using hleft
  rw [complete, closeRun_eq_ok report hopen]
  simp only [hfailure, Bool.false_eq_true, if_false]
  exact if_neg hlimit

theorem complete_eq_ok_of_last {life : Lifecycle} {index : UInt32} {report : Report}
    (policy : MinDurationPolicy) (hopen : life.openAttempt? = some index)
    (hfailure : report.outcome.isSuccess = false)
    (hlast : life.failureLimit ≤ life.failures + 1) :
    life.complete index report policy =
      (life.givenUp report,
        .ok (Transition.closing ⟨life.name, index⟩ report, .permanentlyFailed)) := by
  rw [complete, closeRun_eq_ok report hopen]
  simp only [hfailure, Bool.false_eq_true, if_false]
  exact if_pos hlast

theorem complete_refused {life : Lifecycle} {index : UInt32} (report : Report)
    (policy : MinDurationPolicy) (h : life.openAttempt? ≠ some index) :
    ∃ refusal, life.complete index report policy = (life, .error refusal) := by
  obtain ⟨refusal, hrefused⟩ := closeRun_refused report h
  exact ⟨refusal, by simp [complete, hrefused]⟩

theorem completeLate_eq_ok {life : Lifecycle} {index : UInt32} (report : Report)
    (hopen : life.openAttempt? = some index) :
    life.completeLate index report =
      (life.closedLate report, .ok (Transition.closing ⟨life.name, index⟩ report)) := by
  simp [completeLate, closeRun_eq_ok report hopen, closedLate, Transition.closing]

theorem completeLate_refused {life : Lifecycle} {index : UInt32} (report : Report)
    (h : life.openAttempt? ≠ some index) :
    ∃ refusal, life.completeLate index report = (life, .error refusal) := by
  obtain ⟨refusal, hrefused⟩ := closeRun_refused report h
  exact ⟨refusal, by simp [completeLate, hrefused]⟩

/-! ## The invariant -/

/-- The failures that end the process, as a number. -/
def limit (life : Lifecycle) : Nat := life.failureLimit.toNat

/-- How the last of the runs stands, with `earlier` failed runs before it. -/
inductive Ending (life : Lifecycle) (earlier : Nat) (last : Run) : Prop
  | inFlight (isOpen : last.isOpen = true) (state : life.state = .running)
      (failures : life.failures.toNat = earlier)
  /-- Between a tolerated failure and the next launch. -/
  | waiting (failed : last.state = .failed) (state : life.state = .running)
      (failures : life.failures.toNat = earlier + 1) (below : earlier + 1 < life.limit)
  | succeeded (success : last.state = .success) (state : life.state = .success)
      (failures : life.failures.toNat = earlier)
  | givenUp (failed : last.state = .failed) (state : life.state = .failed)
      (failures : life.failures.toNat = earlier + 1) (reached : earlier + 1 = life.limit)
  /-- Failed when the task was decided already; the failure is not counted. -/
  | closedLate (failed : last.state = .failed) (state : life.state = .failed)
      (failures : life.failures.toNat = earlier)

inductive Stage (life : Lifecycle) : Prop
  | pending (state : life.state = .pending) (runs : life.runs = []) (failures : life.failures = 0)
  | launched (earlier : List Run) (last : Run) (runs : life.runs = earlier ++ [last])
      (failed : ∀ run ∈ earlier, run.state = .failed) (below : earlier.length < life.limit)
      (ending : life.Ending earlier.length last)

structure Coherent (life : Lifecycle) : Prop where
  numbered : life.runs.map (·.id) =
    (List.range life.runs.length).map fun n => ⟨life.name, UInt32.ofNat n⟩
  stage : life.Stage

/-- An attempt is in flight: the open run `last` comes after `earlier` failed ones. -/
structure InFlight (life : Lifecycle) (index : UInt32) (earlier : List Run) (last : Run) :
    Prop where
  runs : life.runs = earlier ++ [last]
  failed : ∀ run ∈ earlier, run.state = .failed
  below : earlier.length < life.limit
  isOpen : last.isOpen = true
  id : last.id = ⟨life.name, index⟩
  number : index = UInt32.ofNat earlier.length
  state : life.state = .running
  failures : life.failures.toNat = earlier.length

theorem limit_pos (life : Lifecycle) : 0 < life.limit := by
  unfold limit failureLimit
  split
  · decide
  · next h => exact Nat.pos_of_ne_zero fun hzero => h (UInt32.toNat_inj.mp hzero)

theorem limit_lt (life : Lifecycle) : life.limit < 2 ^ 32 := UInt32.toNat_lt _

theorem limit_eq_of_spec {a b : Lifecycle} (h : a.spec = b.spec) : a.limit = b.limit := by
  simp [limit, failureLimit, h]

theorem openRun?_concat {life : Lifecycle} {earlier : List Run} {last : Run}
    (h : life.runs = earlier ++ [last]) :
    life.openRun? = if last.isOpen then some last else none := by
  simp [openRun?, h, Option.filter]

theorem InFlight.closedRuns {life : Lifecycle} {index : UInt32} {earlier : List Run} {last : Run}
    (h : life.InFlight index earlier last) (report : Report) :
    life.closedRuns report = earlier ++ [last.close report life.spec.minDuration] := by
  simp [Lifecycle.closedRuns, openRun?_concat h.runs, h.runs, h.isOpen]

@[simp]
theorem openAttempt?_opened (life : Lifecycle) (now : Instant) :
    (life.opened now).openAttempt? = some life.nextId.index := by
  simp [openAttempt?, openRun?, opened]

theorem of_mem_opened {life : Lifecycle} {now : Instant} {run : Run}
    (h : run ∈ (life.opened now).runs) : run ∈ life.runs ∨ run.isOpen = true := by
  rcases List.mem_append.mp h with hold | hnew
  · exact Or.inl hold
  · rw [List.mem_singleton.mp hnew]
    exact Or.inr rfl

theorem coherent_of_spec (spec : ProcessSpec) : Coherent { spec } where
  numbered := rfl
  stage := .pending rfl rfl rfl

namespace Coherent

variable {life : Lifecycle}

theorem pending_iff (h : life.Coherent) : life.state = .pending ↔ life.runs = [] := by
  cases h.stage with
  | pending state runs _ => exact ⟨fun _ => runs, fun _ => state⟩
  | launched earlier last runs _ _ ending =>
    have hne : life.runs ≠ [] := by simp [runs]
    refine ⟨fun hpending => ?_, fun hnil => absurd hnil hne⟩
    cases ending with
    | inFlight _ state _ | waiting _ state _ _ | succeeded _ state _ | givenUp _ state _ _
    | closedLate _ state _ => rw [state] at hpending; cases hpending

theorem idle_of_pending (h : life.Coherent) (hpending : life.state = .pending) :
    life.openAttempt? = none := by
  simp [openAttempt?, openRun?, h.pending_iff.mp hpending]

theorem length_le (h : life.Coherent) : life.runs.length ≤ life.limit := by
  cases h.stage with
  | pending _ runs _ => simp [runs]
  | launched earlier last runs _ below _ =>
    simp only [runs, List.length_append, List.length_singleton]
    omega

theorem inFlight (h : life.Coherent) {index : UInt32} (hopen : life.openAttempt? = some index) :
    ∃ earlier last, life.InFlight index earlier last := by
  obtain ⟨run, hrun, hindex⟩ := openRun?_of_openAttempt? hopen
  cases h.stage with
  | pending _ runs _ => simp [openRun?, runs] at hrun
  | launched earlier last runs failed below ending =>
    rw [openRun?_concat runs] at hrun
    split at hrun
    · next hlast =>
      have hsame := Option.some.inj hrun
      subst hsame
      have hid : last.id = ⟨life.name, UInt32.ofNat earlier.length⟩ := by
        have hnumbered := h.numbered
        rw [runs, List.length_append, List.length_singleton, List.range_succ] at hnumbered
        simp only [List.map_append, List.map_cons, List.map_nil] at hnumbered
        have htail := (List.append_inj' hnumbered rfl).2
        simpa using htail
      -- Every other ending says that the last run is closed.
      cases ending with
      | inFlight _ state failures =>
        have hnumber : index = UInt32.ofNat earlier.length := by rw [← hindex, hid]
        exact ⟨earlier, last, runs, failed, below, hlast, by rw [hid, hnumber], hnumber, state,
          failures⟩
      | waiting hstate _ _ _ | succeeded hstate _ _ | givenUp hstate _ _ _
      | closedLate hstate _ _ =>
        exact absurd ((Run.isOpen_iff last).mp hlast) (by rw [hstate]; decide)
    · cases hrun

theorem running_of_openAttempt? (h : life.Coherent) {index : UInt32}
    (hopen : life.openAttempt? = some index) : life.state = .running := by
  obtain ⟨_, _, hflight⟩ := h.inFlight hopen
  exact hflight.state

theorem live_of_openAttempt? (h : life.Coherent) {index : UInt32}
    (hopen : life.openAttempt? = some index) : life.state ≠ .failed := by
  rw [h.running_of_openAttempt? hopen]
  decide

/-- The open run is the attempt in flight. -/
theorem openAttempt?_of_isOpen (h : life.Coherent) {run : Run} (hrun : run ∈ life.runs)
    (hopen : run.isOpen = true) : life.openAttempt? = some run.id.index := by
  cases h.stage with
  | pending _ runs _ => simp [runs] at hrun
  | launched earlier last runs failed _ _ =>
    rw [runs] at hrun
    rcases List.mem_append.mp hrun with hearlier | hlast
    · have hrunning := (Run.isOpen_iff run).mp hopen
      rw [failed run hearlier] at hrunning
      cases hrunning
    · rw [List.mem_singleton.mp hlast] at hopen ⊢
      simp [openAttempt?, openRun?_concat runs, hopen]

/-- A process that has come to its end has no open run. -/
theorem ended_of_terminal (h : life.Coherent) (hterminal : life.state.isTerminal = true)
    {run : Run} (hrun : run ∈ life.runs) : ∃ report met, run.phase = .ended report met := by
  cases hphase : run.phase with
  | ended report met => exact ⟨report, met, rfl⟩
  | inFlight now =>
    have hopen := h.openAttempt?_of_isOpen hrun (by simp [Run.isOpen, hphase])
    rw [h.running_of_openAttempt? hopen] at hterminal
    cases hterminal

/-- The failed runs are the counted failures, unless one came too late to count. -/
theorem failed_runs (h : life.Coherent)
    (hexhausted : life.state = .failed → life.failures.toNat = life.limit) :
    life.runs.countP (·.state = .failed) = life.failures.toNat := by
  cases h.stage with
  | pending _ runs failures => simp [runs, failures]
  | launched earlier last runs failed below ending =>
    have hearlier : earlier.countP (·.state = .failed) = earlier.length :=
      List.countP_eq_length.mpr fun run hrun => decide_eq_true (failed run hrun)
    rw [runs, List.countP_append, hearlier, List.countP_singleton]
    cases ending with
    | inFlight isOpen _ failures =>
      have hrunning := (Run.isOpen_iff last).mp isOpen
      simp [hrunning, failures]
    | succeeded success _ failures => simp [success, failures]
    | waiting last_failed _ failures _ | givenUp last_failed _ failures _ =>
      simp [last_failed, failures]
    | closedLate _ state failures =>
      have hreached := hexhausted state
      omega

/-- One more failure never overflows the counter. -/
theorem failures_succ (h : life.Coherent) {index : UInt32}
    (hopen : life.openAttempt? = some index) :
    (life.failures + 1).toNat = life.failures.toNat + 1 := by
  obtain ⟨earlier, last, hflight⟩ := h.inFlight hopen
  have hlimit := life.limit_lt
  rw [UInt32.toNat_add, hflight.failures]
  exact Nat.mod_eq_of_lt (by simpa using Nat.lt_of_le_of_lt hflight.below hlimit)

theorem runs_opened_ids (h : life.Coherent) (now : Instant) :
    (life.opened now).runs.map (·.id) =
      (List.range (life.opened now).runs.length).map fun n => ⟨life.name, UInt32.ofNat n⟩ := by
  simp only [opened, List.map_append, List.map_cons, List.map_nil, Run.launched_id,
    List.length_append, List.length_singleton, List.range_succ, h.numbered, nextId]

/-- A process that is given up has failed as often as it may. -/
theorem failures_givenUp (h : life.Coherent) {index : UInt32} (report : Report)
    (hopen : life.openAttempt? = some index) (hlast : life.failureLimit ≤ life.failures + 1) :
    (life.givenUp report).failures.toNat = (life.givenUp report).limit := by
  obtain ⟨earlier, _, hflight⟩ := h.inFlight hopen
  have hsucc := h.failures_succ hopen
  have hle := UInt32.le_iff_toNat_le.mp hlast
  have hlt : life.failures.toNat < life.limit := hflight.failures ▸ hflight.below
  rw [hsucc] at hle
  rw [givenUp_failures, hsucc, limit_eq_of_spec (givenUp_spec life report)]
  exact Nat.le_antisymm hlt hle

/-- Closing a run keeps the names of the runs. -/
theorem closedRuns_ids (h : life.Coherent) {index : UInt32} (report : Report)
    (hopen : life.openAttempt? = some index) :
    (life.closedRuns report).map (·.id) = life.runs.map (·.id) := by
  obtain ⟨earlier, last, hflight⟩ := h.inFlight hopen
  rw [hflight.closedRuns, hflight.runs]
  simp

theorem getElem_id (h : life.Coherent) {n : Nat} (hn : n < life.runs.length) :
    life.runs[n].id = ⟨life.name, UInt32.ofNat n⟩ := by
  have hnumbered : (life.runs.map (·.id))[n]? =
      ((List.range life.runs.length).map fun n => (⟨life.name, UInt32.ofNat n⟩ : AttemptId))[n]? :=
    congrArg (·[n]?) h.numbered
  simpa [hn] using hnumbered

/-- The runs after a completion are those before it and the one that it closed. -/
theorem of_mem_closedRuns (h : life.Coherent) {index : UInt32} {report : Report} {run : Run}
    (hopen : life.openAttempt? = some index) (hrun : run ∈ life.closedRuns report) :
    run ∈ life.runs ∨ (run.id = ⟨life.name, index⟩ ∧
      run.phase = .ended report (life.spec.minDuration.metBy report.elapsed)) := by
  obtain ⟨earlier, last, hflight⟩ := h.inFlight hopen
  rw [hflight.closedRuns] at hrun
  rcases List.mem_append.mp hrun with hold | hnew
  · exact Or.inl (by rw [hflight.runs]; exact List.mem_append_left _ hold)
  · rw [List.mem_singleton.mp hnew]
    exact Or.inr ⟨hflight.id, rfl⟩

/-- The runs are numbered from zero. -/
theorem indices (h : life.Coherent) :
    life.runs.map (·.id.index.toNat) = List.range life.runs.length := by
  have hids := congrArg (List.map fun id : AttemptId => id.index.toNat) h.numbered
  rw [List.map_map, List.map_map] at hids
  refine hids.trans ((List.map_congr_left fun n hn => ?_).trans (List.map_id _))
  -- There are too few runs for the numbers to wrap around.
  have hfew := Nat.lt_of_le_of_lt h.length_le life.limit_lt
  exact UInt32.toNat_ofNat_of_lt' (Nat.lt_trans (List.mem_range.mp hn) hfew)

/-- No two runs of a process have the same number. -/
theorem nodup_ids (h : life.Coherent) : (life.runs.map (·.id)).Nodup := by
  refine List.Nodup.of_map (fun id : AttemptId => id.index.toNat) ?_
  rw [List.map_map]
  exact h.indices.symm ▸ List.nodup_range

theorem run_process (h : life.Coherent) {run : Run} (hrun : run ∈ life.runs) :
    run.id.process = life.name := by
  have hid : run.id ∈ life.runs.map (·.id) := List.mem_map_of_mem hrun
  rw [h.numbered] at hid
  obtain ⟨n, _, hn⟩ := List.mem_map.mp hid
  rw [← hn]

theorem numbered_of_closed (h : life.Coherent) {index : UInt32} {report : Report}
    (hopen : life.openAttempt? = some index) {closed : Lifecycle}
    (hspec : closed.spec = life.spec) (hruns : closed.runs = life.closedRuns report) :
    closed.runs.map (·.id) =
      (List.range closed.runs.length).map fun n => ⟨closed.name, UInt32.ofNat n⟩ := by
  obtain ⟨earlier, last, hflight⟩ := h.inFlight hopen
  have hnumbered := h.numbered
  rw [hflight.runs] at hnumbered
  rw [hruns, hflight.closedRuns, name_eq_of_spec hspec]
  simpa using hnumbered

theorem openAttempt?_of_closed (h : life.Coherent) {index : UInt32} {report : Report}
    (hopen : life.openAttempt? = some index) {closed : Lifecycle}
    (hruns : closed.runs = life.closedRuns report) : closed.openAttempt? = none := by
  obtain ⟨earlier, last, hflight⟩ := h.inFlight hopen
  rw [hflight.closedRuns] at hruns
  simp [openAttempt?, openRun?_concat hruns]

theorem nextId_of_pending (h : life.Coherent) (hpending : life.state = .pending) :
    life.nextId = ⟨life.name, 0⟩ := by
  simp [nextId, h.pending_iff.mp hpending]

/-- The number of the attempt after the one in flight does not wrap around. -/
theorem next_toNat (h : life.Coherent) {index : UInt32}
    (hopen : life.openAttempt? = some index) : (index + 1).toNat = index.toNat + 1 := by
  obtain ⟨earlier, last, hflight⟩ := h.inFlight hopen
  have hnext : earlier.length + 1 < 2 ^ 32 := Nat.lt_of_le_of_lt hflight.below life.limit_lt
  have hnumber : index.toNat = earlier.length := by
    rw [hflight.number, UInt32.toNat_ofNat_of_lt' (Nat.lt_of_succ_lt hnext)]
  rw [UInt32.toNat_add, hnumber]
  exact Nat.mod_eq_of_lt hnext

/-- The attempt after a tolerated failure has the next number. -/
theorem nextId_tolerated (h : life.Coherent) {index : UInt32} (report : Report)
    (hopen : life.openAttempt? = some index) :
    (life.tolerated report).nextId = ⟨life.name, index + 1⟩ := by
  obtain ⟨earlier, last, hflight⟩ := h.inFlight hopen
  have hruns : (life.tolerated report).runs =
      earlier ++ [last.close report life.spec.minDuration] := hflight.closedRuns report
  simp [nextId, hruns, name, hflight.number, UInt32.ofNat_add]

/-- A process that is pending, or waits for its next attempt, is launched. -/
theorem opened (h : life.Coherent) (now : Instant)
    (hrunnable : life.state = .pending ∨ life.state = .running) (hidle : life.openAttempt? = none) :
    (life.opened now).Coherent where
  numbered := h.runs_opened_ids now
  stage := by
    cases h.stage with
    | pending _ runs failures =>
      refine .launched [] (Run.launched life.nextId now) ?_ ?_ life.limit_pos
        (.inFlight rfl rfl ?_)
      · simp [Lifecycle.opened, runs]
      · simp
      · simp [failures]
    | launched earlier last runs failed below ending =>
      -- Without an open run only a process that waits for a retry may be launched.
      cases ending with
      | waiting hlast state failures hbelow =>
        refine .launched (earlier ++ [last]) (Run.launched life.nextId now) ?_ ?_ ?_
          (.inFlight rfl rfl ?_)
        · simp [Lifecycle.opened, runs]
        · intro run hrun
          rcases List.mem_append.mp hrun with hrun | hrun
          · exact failed run hrun
          · rw [List.mem_singleton.mp hrun]
            exact hlast
        · rw [limit_eq_of_spec (opened_spec life now), List.length_append]
          exact hbelow
        · simpa using failures
      | inFlight hlast _ _ => simp [openAttempt?, openRun?_concat runs, hlast] at hidle
      | succeeded _ state _ | givenUp _ state _ _ | closedLate _ state _ =>
        rw [state] at hrunnable
        rcases hrunnable with hrunnable | hrunnable <;> cases hrunnable

section Closing

variable {index : UInt32} {report : Report}

/-- Closing the open run keeps a lifecycle coherent, if the state and the failures
fit the report. -/
theorem closed (h : life.Coherent) (hopen : life.openAttempt? = some index) (new : Lifecycle)
    (hspec : new.spec = life.spec) (hruns : new.runs = life.closedRuns report)
    (hending : ∀ earlier last, life.InFlight index earlier last →
      new.Ending earlier.length (last.close report life.spec.minDuration)) : new.Coherent := by
  obtain ⟨earlier, last, hflight⟩ := h.inFlight hopen
  refine ⟨h.numbered_of_closed hopen hspec hruns, .launched earlier _
    (hruns.trans (hflight.closedRuns report)) hflight.failed ?_ (hending earlier last hflight)⟩
  rw [limit_eq_of_spec hspec]
  exact hflight.below

theorem succeeded (h : life.Coherent) (hopen : life.openAttempt? = some index)
    (hsuccess : report.outcome.isSuccess = true) : (life.succeeded report).Coherent :=
  h.closed hopen _ rfl rfl fun _ _ hflight =>
    .succeeded (Outcome.runState_eq_success.mpr hsuccess) rfl hflight.failures

theorem tolerated (h : life.Coherent) (hopen : life.openAttempt? = some index)
    (hfailure : report.outcome.isSuccess = false)
    (hleft : life.failures + 1 < life.failureLimit) : (life.tolerated report).Coherent := by
  refine h.closed hopen _ rfl rfl fun earlier last hflight => ?_
  have hcount : (life.failures + 1).toNat = earlier.length + 1 := by
    rw [h.failures_succ hopen, hflight.failures]
  have hlt := UInt32.lt_iff_toNat_lt.mp hleft
  rw [hcount] at hlt
  exact .waiting (Outcome.runState_eq_failed.mpr hfailure) hflight.state hcount hlt

theorem givenUp (h : life.Coherent) (hopen : life.openAttempt? = some index)
    (hfailure : report.outcome.isSuccess = false)
    (hlast : life.failureLimit ≤ life.failures + 1) : (life.givenUp report).Coherent := by
  refine h.closed hopen _ rfl rfl fun earlier last hflight => ?_
  have hcount : (life.failures + 1).toNat = earlier.length + 1 := by
    rw [h.failures_succ hopen, hflight.failures]
  have hreached := h.failures_givenUp report hopen hlast
  rw [givenUp_failures, hcount] at hreached
  exact .givenUp (Outcome.runState_eq_failed.mpr hfailure) rfl hcount hreached

theorem closedLate (h : life.Coherent) (hopen : life.openAttempt? = some index) :
    (life.closedLate report).Coherent := by
  refine h.closed hopen _ rfl rfl fun earlier last hflight => ?_
  cases hout : report.outcome.isSuccess with
  | true =>
    have hstate := Outcome.runState_eq_success.mpr hout
    exact .succeeded hstate hstate hflight.failures
  | false =>
    have hstate := Outcome.runState_eq_failed.mpr hout
    exact .closedLate hstate hstate hflight.failures

end Closing

end Coherent

end Lifecycle

end Overseer
