import Overseer.Proofs.Precedence.Blocking
import Overseer.Proofs.Schedule.Finality
import Overseer.Proofs.Schedule.Ordering

/-!
# The failure of a predecessor is fatal

A process that others wait for fails for good in one step: the completion that is
its last failure. That step decides the task and announces as blocked every process
that waits for it, directly or not; no other step blocks anything. Since none of
these processes was launched before, and a decided schedule launches nothing, none
of them ever runs.

Results:
1. `mem_blockedBy`: what a failure blocks is what comes after it.
2. `apply_fatal`, `apply_failed`, `apply_newlyBlocked`: which step makes a process
   fail, which step blocks others, and what it answers.
3. `Reachable.failure_fatal`: a failed predecessor, at its failure and ever after.
-/

namespace Overseer

/-! ## What comes after a process -/

theorem TaskSpec.precedes_iff (task : TaskSpec) {p q : ProcessName} :
    Overseer.Precedes task.precedence.edges p q ↔ task.Precedes p q := by
  simp only [Overseer.Precedes, Precedes, task.mem_edges]

namespace Schedule

variable {s t : Schedule} {life : Lifecycle} {op : Operation} {p q : ProcessName}

/-- With nothing blocked so far, the failure of a process blocks all that comes
after it. -/
theorem mem_blockedBy (hnone : s.progress.blocked = []) (hp : p ∈ s.task.precedence.order) :
    q ∈ s.blockedBy p ↔ s.task.Precedes p q := by
  have hclosed : s.progress.Closed s.task.precedence := by
    intro a b _ ha
    rw [hnone] at ha
    cases ha
  rw [blockedBy, Progress.mem_newlyBlocked s.task.precedence_sound hclosed hp, hnone,
    s.task.precedes_iff]
  exact and_iff_right List.not_mem_nil

theorem blockedBy_nodup (s : Schedule) (p : ProcessName) : (s.blockedBy p).Nodup :=
  Progress.newlyBlocked_nodup s.task.nodup_order _ _

/-! ## Last failures -/

/-- The operation reports that the open attempt of `p` failed, and this is the last
failure that `p` may have. -/
def LastFailure (s : Schedule) (op : Operation) (p : ProcessName) : Prop :=
  ∃ life ∈ s.lifecycles, life.name = p ∧ ∃ index report now,
    op = .complete ⟨life.name, index⟩ report now ∧ life.openAttempt? = some index ∧
    report.outcome.isSuccess = false ∧ life.failureLimit ≤ life.failures + 1

/-- The operation makes `p` fail for good. -/
def GivesUp (s : Schedule) (op : Operation) (p : ProcessName) : Prop :=
  s.stateOf? p ≠ some .failed ∧ (s.apply op).1.stateOf? p = some .failed

/-- The last failure of a process that others wait for decides the task at once. -/
theorem apply_fatal (h : s.Sound) (undecided : s.decision = none) (hlast : s.LastFailure op p)
    (hwaited : s.task.HasDependents p) :
    (s.apply op).1.stateOf? p = some .failed ∧
      (s.apply op).2.decision = some (.failed (.dependencyFailed p)) ∧
      (s.apply op).2.newlyBlocked = s.blockedBy p := by
  obtain ⟨life, hmem, rfl, index, report, now, rfl, hopen, hfailure, hlimit⟩ := hlast
  have hd := h.coherent.distinct
  have happly : s.apply (.complete ⟨life.name, index⟩ report now) = _ :=
    complete_fatal hd hmem hopen undecided hfailure hlimit (s.task.isPredecessor_iff.mpr hwaited)
  rw [happly]
  refine ⟨?_, rfl, rfl⟩
  have hname : (life.givenUp report).name = life.name := rfl
  exact (stateOf?_eq_some (hd.put hmem hname)).mpr
    ⟨life.givenUp report, mem_put_self hd hmem hname, rfl, rfl⟩

end Schedule

open Schedule

/-- Before the decision a process fails only with its last failure. -/
theorem Change.failed {op : Operation} {s t : Schedule} {step : Step}
    (change : Change op s step t) (h : s.Coherent) (undecided : s.decision = none)
    {other : Lifecycle} (hother : other ∈ t.lifecycles) (hfailed : other.state = .failed) :
    other ∈ s.lifecycles ∨ s.LastFailure op other.name := by
  have hd := h.distinct
  cases change with
  | @launch life now _ mem _ _ =>
    rcases of_mem_put hother hd mem rfl with rfl | ⟨hold, _⟩
    · cases hfailed
    · exact Or.inl hold
  | @succeed life index report now _ _ mem _ _ =>
    have hname : (life.succeeded report).name = life.name := rfl
    rcases of_mem_put hother hd mem hname with rfl | ⟨hold, _⟩
    · cases hfailed
    · exact Or.inl hold
  | @retry life index report now _ _ mem _ _ _ _ =>
    rw [lifecycles_retried] at hother
    rcases of_mem_put hother hd mem rfl with rfl | ⟨hold, _⟩
    · cases hfailed
    · exact Or.inl hold
  | @overrun life index report now _ _ mem opened _ _ _ =>
    have hname : (life.tolerated report).name = life.name := rfl
    rcases of_mem_put hother hd mem hname with rfl | ⟨hold, _⟩
    · rw [Lifecycle.tolerated_state, (h.lifecycles life mem).running_of_openAttempt? opened]
        at hfailed
      cases hfailed
    · exact Or.inl hold
  | @tolerate life index report now call _ mem opened failure last _ _
  | @exhaust life index report now call _ mem opened failure last _ _
  | @fatal life index report now call _ mem opened failure last _ =>
    have hname : (life.givenUp report).name = life.name := rfl
    rcases of_mem_put hother hd mem hname with rfl | ⟨hold, _⟩
    · exact Or.inr ⟨life, mem, rfl, index, report, now, call, opened, failure, last⟩
    · exact Or.inl hold
  | late _ decided => exact absurd undecided decided
  | cancel | conclude => exact Or.inl hother

/-- Only the last failure of a process that others wait for blocks anything. -/
theorem Change.newlyBlocked {op : Operation} {s t : Schedule} {step : Step}
    (change : Change op s step t) (hne : step.newlyBlocked ≠ []) :
    s.decision = none ∧ ∃ p, s.task.HasDependents p ∧ s.LastFailure op p := by
  cases change with
  | launch | succeed | retry | overrun | late | cancel | conclude => exact absurd rfl hne
  | tolerate _ _ _ _ _ _ leaf _ | exhaust _ _ _ _ _ _ leaf _ =>
    exact absurd (Progress.recordFailure_of_leaf leaf).2 hne
  | @fatal life index report now call undecided mem opened failure last waited =>
    exact ⟨undecided, life.name, s.task.isPredecessor_iff.mp waited, life, mem, rfl, index, report,
      now, call, opened, failure, last⟩

/-- Launches make no process fail and block nothing. -/
theorem Changes.of_launches {now : Instant} {s t : Schedule} {step : Step}
    (launches : Changes (.start now) s step t) (h : s.Sound) :
    (∀ life ∈ t.lifecycles, life.state = .failed → life ∈ s.lifecycles) ∧
      step.newlyBlocked = [] := by
  induction launches with
  | none s => exact ⟨fun _ hlife _ => hlife, rfl⟩
  | more change _ ih =>
    obtain ⟨hfailed, hblocked⟩ := ih (change.sound h)
    cases change with
    | @launch life now _ mem _ _ =>
      refine ⟨fun other hother hstate => ?_, hblocked⟩
      rcases of_mem_put (hfailed other hother hstate) h.coherent.distinct mem rfl with
        rfl | ⟨hold, _⟩
      · cases hstate
      · exact hold
    | conclude => exact ⟨hfailed, hblocked⟩
    | succeed call | retry call | overrun call | tolerate call | exhaust call | fatal call
    | late call | cancel call => cases call

namespace Schedule

variable {s : Schedule} {op : Operation} {p : ProcessName}

/-- A process that has failed after an operation had failed before, or the
operation reported its last failure. -/
theorem apply_failed (h : s.Sound) (undecided : s.decision = none)
    (hfailed : (s.apply op).1.stateOf? p = some .failed) :
    s.stateOf? p = some .failed ∨ s.LastFailure op p := by
  obtain ⟨other, hother, rfl, hstate⟩ :=
    (stateOf?_eq_some (apply_sound h op).coherent.distinct).mp hfailed
  have hold : other ∈ s.lifecycles → s.stateOf? other.name = some .failed := fun hmem =>
    (stateOf?_eq_some h.coherent.distinct).mpr ⟨other, hmem, rfl, hstate⟩
  obtain ⟨now, t, first, rest, ⟨rfl, _⟩ | change, launches, _⟩ := apply_split h op
  · exact Or.inl (hold ((launches.of_launches h).1 other hother hstate))
  · have hmid := (launches.of_launches (change.sound h)).1 other hother hstate
    exact (change.failed h.coherent undecided hmid hstate).imp_left hold

/-- An operation that blocks something reports the last failure of a process that
others wait for, before the decision. -/
theorem apply_newlyBlocked (h : s.Sound) (hne : (s.apply op).2.newlyBlocked ≠ []) :
    s.decision = none ∧ ∃ p, s.task.HasDependents p ∧ s.LastFailure op p := by
  obtain ⟨now, t, first, rest, hfirst, launches, hstep⟩ := apply_split h op
  rw [hstep, Step.andThen_newlyBlocked] at hne
  rcases hfirst with ⟨rfl, rfl⟩ | change
  · exact absurd (launches.of_launches h).2 hne
  · rw [(launches.of_launches (change.sound h)).2, List.append_nil] at hne
    exact change.newlyBlocked hne

/-! ## Runs -/

variable {task : TaskSpec} {options : SchedulerOptions}

/-- A process that others wait for has failed only if the task has. -/
theorem Reachable.decision_of_failed (h : Reachable task options s)
    (hwaited : s.task.HasDependents p) (hfailed : s.stateOf? p = some .failed) :
    ∃ reason, s.decision = some (.failed reason) := by
  obtain ⟨life, hmem, rfl, hstate⟩ := (stateOf?_eq_some h.sound.coherent.distinct).mp hfailed
  cases hdecision : s.decision with
  | none => exact absurd hwaited ((h.sound.active hdecision).unneeded life hmem hstate)
  | some decision =>
    cases decision with
    | failed reason => exact ⟨reason, rfl⟩
    | success =>
      have hactive := (h.settled_of_success hdecision).2
      exact absurd hwaited (hactive.unneeded life hmem hstate)

/-- What comes after a failed process is not recorded, whatever happens next. -/
theorem Reachable.never_recorded (h : Reachable task options s)
    (hfailed : s.stateOf? p = some .failed) (hpq : s.task.Precedes p q)
    (decided : s.decision ≠ none) (more : List Operation) :
    q ∉ (s.after more).records.map (·.1) := by
  intro hrecorded
  obtain ⟨hfrozen, _⟩ := after_frozen h.sound decided more
  obtain ⟨⟨q, runs⟩, hrecord, rfl⟩ := List.mem_map.mp hrecorded
  obtain ⟨life, hmem, hruns, rfl, _⟩ := mem_records.mp hrecord
  have hsucceeded := (h.after more).sound.coherent.launched_precedes hmem hruns
    (hfrozen.task.symm ▸ hpq)
  rw [hfrozen.progress] at hsucceeded
  have hsuccess := h.sound.coherent.stateOf?_of_succeeded hsucceeded
  rw [hfailed] at hsuccess
  cases hsuccess

/-- If a process that others wait for has failed, so has the task, and none of the
processes after it is recorded now or at any time later. It fails in a step that
decides the task for this reason and announces exactly the processes after it as
blocked, each once. No other step of a run blocks anything. -/
theorem Reachable.failure_fatal (h : Reachable task options s) :
    (∀ p, task.HasDependents p → s.stateOf? p = some .failed →
      (∃ reason, s.decision = some (.failed reason)) ∧
      ∀ q, task.Precedes p q → ∀ more, q ∉ (s.after more).records.map (·.1)) ∧
    (∀ op p, s.decision = none → task.HasDependents p → s.GivesUp op p →
      (s.apply op).2.decision = some (.failed (.dependencyFailed p)) ∧
      (s.apply op).2.newlyBlocked.Nodup ∧
      ∀ q, q ∈ (s.apply op).2.newlyBlocked ↔ task.Precedes p q) ∧
    ∀ op, (s.apply op).2.newlyBlocked ≠ [] →
      s.decision = none ∧ ∃ p, task.HasDependents p ∧ s.GivesUp op p := by
  have hsound := h.sound
  obtain rfl := h.task_eq
  refine ⟨fun p hwaited hfailed => ?_, fun op p undecided hwaited hgives => ?_, fun op hne => ?_⟩
  · obtain ⟨reason, hdecision⟩ := h.decision_of_failed hwaited hfailed
    exact ⟨⟨reason, hdecision⟩, fun q hpq => h.never_recorded hfailed hpq (by simp [hdecision])⟩
  · have hlast := (apply_failed hsound undecided hgives.2).resolve_left hgives.1
    obtain ⟨_, hdecision, hblocked⟩ := apply_fatal hsound undecided hlast hwaited
    obtain ⟨life, hmem, rfl, _⟩ := hlast
    rw [hblocked]
    exact ⟨hdecision, blockedBy_nodup s life.name, fun q =>
      mem_blockedBy (hsound.active undecided).unblocked (hsound.coherent.name_mem_order hmem)⟩
  · obtain ⟨undecided, p, hwaited, hlast⟩ := apply_newlyBlocked hsound hne
    refine ⟨undecided, p, hwaited, fun hfailed => ?_,
      (apply_fatal hsound undecided hlast hwaited).1⟩
    obtain ⟨reason, hdecision⟩ := h.decision_of_failed hwaited hfailed
    rw [undecided] at hdecision
    cases hdecision

/-- When `top` fails, `bottom` is blocked along with the two processes before it,
and has no record however the run goes on. -/
theorem Reachable.failure_fatal_diamond :
    let s := (initial .diamond {}).after [.start ⟨0⟩]
    let op : Operation := .complete ⟨"top", 0⟩ ⟨.noExitCode, ⟨0⟩, ⟨1⟩⟩ ⟨1⟩
    (s.apply op).2.decision = some (.failed (.dependencyFailed "top")) ∧
      (∀ q, q ∈ (s.apply op).2.newlyBlocked ↔ TaskSpec.diamond.Precedes "top" q) ∧
      "bottom" ∈ (s.apply op).2.newlyBlocked ∧
      ∀ more, "bottom" ∉ ((s.apply op).1.after more).records.map (·.1) := by
  intro s op
  have hs : Reachable .diamond {} s := ⟨_, rfl⟩
  have hnext : Reachable .diamond {} (s.apply op).1 := ⟨[.start ⟨0⟩, op], rfl⟩
  have hwaited : TaskSpec.diamond.HasDependents "top" := ⟨"left", by decide⟩
  have hbottom : TaskSpec.diamond.Precedes "top" "bottom" :=
    .tail (b := "left") (.single (by decide)) (by decide)
  have hgives : s.GivesUp op "top" := ⟨by decide, by decide⟩
  obtain ⟨hdecision, _, hblocked⟩ := hs.failure_fatal.2.1 op "top" (by decide) hwaited hgives
  obtain ⟨_, hnever⟩ := hnext.failure_fatal.1 "top" hwaited hgives.2
  exact ⟨hdecision, hblocked, (hblocked "bottom").mpr hbottom, hnever "bottom" hbottom⟩

end Schedule

end Overseer
