import Overseer.Proofs.Schedule.Completions

/-!
# The record of a process

What is recorded of a process tells its course, whatever was asked of the schedule
and whether or not the task is decided. Its runs are numbered from zero and are no
more than it may fail; all but the last have failed. An open run says nothing of its
end, a closed one says when and how it ended and whether it lasted long enough. The
state of the process is that of its last run, except that a process may be running
between a failure and the next attempt.

Results:
1. `Reachable.timed`: a closed run tells truly whether it lasted long enough.
2. `Lifecycle.Coherent.wellRecorded`: the shape of one record.
3. `Reachable.records_shape`: the records of all processes.
-/

namespace Overseer

/-! ## Runs -/

/-- What a run says of its end, for a process with the given least run time. -/
inductive Run.Told (minDuration : Span) (run : Run) : Prop
  | unended (state : run.state = .running) (endedAt : run.endedAt? = none)
      (exitCode : run.exitCode? = none) (met : run.metMinDuration? = none)
  | ended (stop : Instant) (code : Int32) (state : run.state ≠ .running)
      (endedAt : run.endedAt? = some stop) (exitCode : run.exitCode? = some code)
      (met : run.metMinDuration? =
        some (decide ((minDuration.nanos : Int) ≤ max 0 (stop.nanos - run.startedAt.nanos))))

theorem Span.metBy_elapsed (span : Span) (start stop : Instant) :
    span.metBy (start.elapsed stop) =
      decide ((span.nanos : Int) ≤ max 0 (stop.nanos - start.nanos)) := by
  refine decide_eq_decide.mpr ?_
  simp only [Instant.elapsed]
  omega

theorem Run.told_of_met {minDuration : Span} {run : Run}
    (hmet : ∀ report met, run.phase = .ended report met → met = minDuration.metBy report.elapsed) :
    run.Told minDuration := by
  obtain ⟨id, phase⟩ := run
  cases phase with
  | inFlight now => exact .unended rfl rfl rfl rfl
  | ended report met =>
    have hclosed : report.outcome.runState ≠ .running := by
      cases report.outcome <;> simp [Outcome.runState]
    refine .ended report.endedAt report.outcome.exitCode hclosed rfl rfl ?_
    exact congrArg some ((hmet report met rfl).trans (Span.metBy_elapsed _ _ _))

/-! ## Processes -/

namespace Lifecycle

/-- The shape of what is recorded of a process. -/
structure WellRecorded (life : Lifecycle) : Prop where
  process : ∀ run ∈ life.runs, run.id.process = life.name
  numbered : life.runs.map (·.id.index.toNat) = List.range life.runs.length
  bounded : life.runs.length ≤ life.spec.maxFailures.toNat
  earlier : ∀ run ∈ life.runs.dropLast, run.state = .failed
  last : ∀ front run rest, life.runs = front ++ run :: rest → run.state ≠ .failed → rest = []
  told : ∀ run ∈ life.runs, run.Told life.spec.minDuration
  pending : life.state = .pending ↔ life.runs = []
  success : life.state = .success ↔ life.runs.getLast?.map (·.state) = some .success
  failed : life.state = .failed → life.runs.getLast?.map (·.state) = some .failed

/-- Each closed run tells truly whether its attempt lasted long enough. -/
def Timed (life : Lifecycle) : Prop :=
  ∀ run ∈ life.runs, ∀ report met, run.phase = .ended report met →
    met = life.spec.minDuration.metBy report.elapsed

namespace Coherent

variable {life : Lifecycle}

theorem earlier_failed (h : life.Coherent) : ∀ run ∈ life.runs.dropLast, run.state = .failed := by
  cases h.stage with
  | pending _ runs _ => simp [runs]
  | launched earlier last runs failed _ _ =>
    rw [runs, List.dropLast_concat]
    exact failed

/-- A run that has not failed is the last. -/
theorem last_of_not_failed (h : life.Coherent) {front rest : List Run} {run : Run}
    (hruns : life.runs = front ++ run :: rest) (hstate : run.state ≠ .failed) : rest = [] := by
  by_contra hmore
  refine hstate (h.earlier_failed run ?_)
  rw [hruns, List.dropLast_append_of_ne_nil (List.cons_ne_nil _ _),
    List.dropLast_cons_of_ne_nil hmore]
  exact List.mem_append_right _ List.mem_cons_self

theorem success_iff (h : life.Coherent) :
    life.state = .success ↔ life.runs.getLast?.map (·.state) = some .success := by
  cases h.stage with
  | pending state runs _ => simp [state, runs]
  | launched earlier last runs _ _ ending =>
    rw [runs, List.getLast?_concat, Option.map_some]
    cases ending with
    | inFlight isOpen state _ => simp [state, (Run.isOpen_iff last).mp isOpen]
    | waiting failed state _ _ | givenUp failed state _ _ | closedLate failed state _ =>
      simp [state, failed]
    | succeeded success state _ => simp [state, success]

theorem last_failed (h : life.Coherent) (hfailed : life.state = .failed) :
    life.runs.getLast?.map (·.state) = some .failed := by
  cases h.stage with
  | pending state _ _ =>
    rw [state] at hfailed
    cases hfailed
  | launched earlier last runs _ _ ending =>
    rw [runs, List.getLast?_concat, Option.map_some]
    cases ending with
    | inFlight _ state _ | waiting _ state _ _ | succeeded _ state _ =>
      rw [state] at hfailed
      cases hfailed
    | givenUp failed _ _ _ | closedLate failed _ _ => rw [failed]

theorem wellRecorded (h : life.Coherent) (htimed : life.Timed)
    (hlimit : life.limit = life.spec.maxFailures.toNat) : life.WellRecorded where
  process _ hrun := h.run_process hrun
  numbered := h.indices
  bounded := hlimit ▸ h.length_le
  earlier := h.earlier_failed
  last _ _ _ hruns hstate := h.last_of_not_failed hruns hstate
  told run hrun := Run.told_of_met (htimed run hrun)
  pending := h.pending_iff
  success := h.success_iff
  failed := h.last_failed

end Coherent

end Lifecycle

/-! ## Schedules -/

theorem Effect.timed {op : Operation} {s t : Schedule} {step : Step} (effect : Effect op s step t)
    (h : s.Coherent) (htimed : ∀ life ∈ s.lifecycles, life.Timed) :
    ∀ life ∈ t.lifecycles, life.Timed := by
  intro new hnew run hrun report met hphase
  obtain ⟨life, hmem, hspec, hold | hopen | ⟨report', _, _, hclosed⟩⟩ :=
    effect.of_mem_runs h hnew hrun
  · rw [hspec]
    exact htimed life hmem run hold report met hphase
  · simp [Run.isOpen, hphase] at hopen
  · rw [hphase] at hclosed
    cases hclosed
    rw [hspec]

namespace Schedule

variable {task : TaskSpec} {options : SchedulerOptions} {s : Schedule}

theorem Reachable.timed (h : Reachable task options s) : ∀ life ∈ s.lifecycles, life.Timed := by
  refine h.keep (P := fun s => ∀ life ∈ s.lifecycles, life.Timed) ?_ ?_
  · intro life hmem run hrun
    rw [(initial_pending hmem).2.1] at hrun
    cases hrun
  · exact fun change hsound htimed =>
      (change.effect hsound.coherent).timed hsound.coherent htimed

/-- Whatever was done with a task, before and after its decision: there is one record
for each declared process, it has the shape that its course gives it, and the records
of the schedule are those with at least one run. -/
theorem Reachable.records_shape (h : Reachable task options s) :
    s.lifecycles.map (·.spec) = task.processes ∧ (∀ life ∈ s.lifecycles, life.WellRecorded) ∧
      ∀ p runs, (p, runs) ∈ s.records ↔
        ∃ life ∈ s.lifecycles, life.runs ≠ [] ∧ life.name = p ∧ life.runs = runs := by
  have hc := h.sound.coherent
  refine ⟨?_, fun life hmem => ?_, fun p runs => mem_records⟩
  · rw [hc.specs, h.task_eq]
  · exact (hc.lifecycles life hmem).wellRecorded (h.timed life hmem) (hc.limit_eq hmem)

/-- `first` fails once and then succeeds, and `second` is under way when the task is
cancelled. -/
theorem Reachable.records_shape_pair :
    let s := (initial .pair {}).after
      [.start ⟨0⟩, .complete ⟨"first", 0⟩ ⟨.noExitCode, ⟨5⟩, ⟨1⟩⟩ ⟨1⟩,
        .complete ⟨"first", 1⟩ ⟨.success, ⟨1⟩, ⟨2⟩⟩ ⟨2⟩, .cancel]
    Reachable .pair {} s ∧
      s.lifecycles.map (·.runs.map (·.state)) = [[.failed, .success], [.running]] ∧
      s.lifecycles.map (·.spec) = TaskSpec.pair.processes ∧
      (∀ life ∈ s.lifecycles, life.WellRecorded) ∧
      ∀ p runs, (p, runs) ∈ s.records ↔
        ∃ life ∈ s.lifecycles, life.runs ≠ [] ∧ life.name = p ∧ life.runs = runs :=
  ⟨⟨_, rfl⟩, by rfl, Reachable.records_shape ⟨_, rfl⟩⟩

end Schedule

end Overseer
