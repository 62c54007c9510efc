import Overseer.Proofs.Schedule.Operations

/-!
# Attempts of a run

The attempts that a schedule launches are the runs that it records, each once:
an operation adds to the recorded runs exactly the attempts that it announces as
launched, under the numbers that it announces, and announces a transition for
each of them.

Results:
1. `Change.effect`: what a change does to the runs, whatever else it settles.
2. `runIds_nodup`: no two recorded runs have the same name.
3. `Changes.runIds`: what is recorded is what was launched.
4. `Changes.launchedIds`: what is launched is announced by a transition.
5. `recordedRuns_perm`, `recordedIds_perm`: `Schedule.records` holds these runs.
-/

namespace Overseer

/-- The attempts that a step launches. -/
def Step.launchedIds (step : Step) : List AttemptId := step.launched.map (·.id)

@[simp]
theorem Step.andThen_launchedIds (first second : Step) :
    (first.andThen second).launchedIds = first.launchedIds ++ second.launchedIds :=
  List.map_append

/-- Whether a transition announces a launch. -/
def Transition.isLaunch (transition : Transition) : Bool := transition.oldState = .pending

@[simp] theorem Transition.isLaunch_launch (id : AttemptId) (now : Instant) :
    (launch id now).isLaunch = true := rfl

@[simp] theorem Transition.isLaunch_closing (id : AttemptId) (report : Report) :
    (closing id report).isLaunch = false := rfl

@[simp] theorem Transition.launch_id (id : AttemptId) (now : Instant) :
    (launch id now).id = id := rfl

namespace Schedule

variable {s t : Schedule} {life : Lifecycle}

/-- The names of all recorded runs, in declaration order. -/
def runIds (schedule : Schedule) : List AttemptId :=
  schedule.lifecycles.flatMap fun life => life.runs.map (·.id)

theorem runIds_nodup (h : s.Coherent) : s.runIds.Nodup := by
  rw [runIds, List.nodup_flatMap]
  refine ⟨fun life hmem => (h.lifecycles life hmem).nodup_ids, ?_⟩
  -- Runs of two processes differ in the process that they name.
  have hnames := List.pairwise_map.mp h.distinct
  refine hnames.imp_of_mem ?_
  intro a b ha hb hne id hida hidb
  obtain ⟨run, hrun, rfl⟩ := List.mem_map.mp hida
  obtain ⟨run', hrun', hid⟩ := List.mem_map.mp hidb
  apply hne
  rw [← (h.lifecycles a ha).run_process hrun, ← (h.lifecycles b hb).run_process hrun', hid]

/-- Putting a lifecycle back adds the runs that it has more than before. -/
theorem runIds_put (hd : s.Distinct) (new : Lifecycle) (hmem : life ∈ s.lifecycles)
    (hname : new.name = life.name) {added : List AttemptId}
    (hruns : new.runs.map (·.id) = life.runs.map (·.id) ++ added) :
    (s.put new).runIds.Perm (s.runIds ++ added) := by
  obtain ⟨front, rest, hsplit, hput, _⟩ := put_split hd hmem hname
  simp only [runIds, hsplit, hput, List.flatMap_append, List.flatMap_cons, hruns,
    List.append_assoc]
  exact List.Perm.append_left _ (List.Perm.append_left _ List.perm_append_comm)

theorem runIds_congr (h : t.lifecycles = s.lifecycles) : t.runIds = s.runIds := by
  rw [runIds, runIds, h]

end Schedule

/-! ## Effects -/

open Schedule

/-- What a change does to the runs: one is opened, one is closed, one is closed
and the next opened, or none is touched. -/
inductive Effect (op : Operation) (s : Schedule) (step : Step) (t : Schedule) : Prop
  | launched (life : Lifecycle) (now : Instant) (mem : life ∈ s.lifecycles)
      (ready : s.isReady life = true)
      (lives : t.lifecycles = (s.put (life.opened now)).lifecycles)
      (succeeded : t.progress.succeeded = s.progress.succeeded)
      (transitions : step.transitions = [Transition.launch ⟨life.name, 0⟩ now])
      (ids : step.launchedIds = [⟨life.name, 0⟩])
  | closed (life new : Lifecycle) (index : UInt32) (report : Report) (now : Instant)
      (call : op = .complete ⟨life.name, index⟩ report now)
      (mem : life ∈ s.lifecycles) (opened : life.openAttempt? = some index)
      (spec : new.spec = life.spec) (runs : new.runs = life.closedRuns report)
      (lives : t.lifecycles = (s.put new).lifecycles)
      (succeeded : ∀ p ∈ t.progress.succeeded,
        p ∈ s.progress.succeeded ∨ p = life.name ∧ report.outcome.isSuccess = true)
      (transitions : step.transitions = [Transition.closing ⟨life.name, index⟩ report])
      (ids : step.launchedIds = [])
  | retried (life : Lifecycle) (index : UInt32) (report : Report) (now : Instant)
      (call : op = .complete ⟨life.name, index⟩ report now)
      (mem : life ∈ s.lifecycles) (opened : life.openAttempt? = some index)
      (lives : t.lifecycles = (s.put ((life.tolerated report).opened now)).lifecycles)
      (succeeded : t.progress.succeeded = s.progress.succeeded)
      (transitions : step.transitions = [Transition.closing ⟨life.name, index⟩ report,
        Transition.launch ⟨life.name, index + 1⟩ now])
      (ids : step.launchedIds = [⟨life.name, index + 1⟩])
  | none (lives : t.lifecycles = s.lifecycles)
      (succeeded : t.progress.succeeded = s.progress.succeeded)
      (transitions : step.transitions = []) (ids : step.launchedIds = [])

theorem Progress.of_mem_recordSuccess {progress : Progress} {precedence : Precedence}
    {p q : ProcessName} (h : q ∈ (progress.recordSuccess precedence p).succeeded) :
    q ∈ progress.succeeded ∨ q = p := by
  unfold recordSuccess at h
  split at h
  · exact (List.mem_insert_iff.mp h).symm
  · exact Or.inl h

theorem Change.effect {op : Operation} {s t : Schedule} {step : Step} (change : Change op s step t)
    (h : s.Coherent) : Effect op s step t := by
  cases change with
  | @launch life now _ mem ready _ =>
    have hpending := ((isReady_iff _ _).mp ready).1
    have hnext := (h.lifecycles life mem).nextId_of_pending hpending
    exact .launched life now mem ready rfl rfl (by rw [hnext]) rfl
  | @succeed life index report now call _ mem opened success =>
    refine .closed life (life.succeeded report) index report now call mem opened rfl rfl rfl ?_
      rfl rfl
    intro p hp
    rcases Progress.of_mem_recordSuccess hp with hp | hp
    · exact Or.inl hp
    · exact Or.inr ⟨hp, success⟩
  | @retry life index report now call _ mem opened _ _ _ =>
    have hnext := (h.lifecycles life mem).nextId_tolerated report opened
    exact .retried life index report now call mem opened (lifecycles_retried s life report now) rfl
      (by rw [hnext]) rfl
  | @overrun life index report now call _ mem opened _ _ _ =>
    exact .closed life (life.tolerated report) index report now call mem opened rfl rfl rfl
      (fun _ hp => Or.inl hp) rfl rfl
  | @tolerate life index report now call _ mem opened _ _ _ _ =>
    exact .closed life (life.givenUp report) index report now call mem opened rfl rfl rfl
      (fun _ hp => Or.inl (Progress.recordFailure_succeeded _ _ _ ▸ hp)) rfl rfl
  | @exhaust life index report now call _ mem opened _ _ _ _ =>
    exact .closed life (life.givenUp report) index report now call mem opened rfl rfl rfl
      (fun _ hp => Or.inl (Progress.recordFailure_succeeded _ _ _ ▸ hp)) rfl rfl
  | @fatal life index report now call _ mem opened _ _ _ =>
    exact .closed life (life.givenUp report) index report now call mem opened rfl rfl rfl
      (fun _ hp => Or.inl (Progress.recordFailure_succeeded _ _ _ ▸ hp)) rfl rfl
  | @late life index report now call _ mem opened =>
    exact .closed life (life.closedLate report) index report now call mem opened rfl rfl rfl
      (fun _ hp => Or.inl hp) rfl rfl
  | cancel _ _ => exact .none rfl rfl rfl rfl
  | conclude _ _ => exact .none rfl rfl rfl rfl

/-! ## Launched and recorded attempts -/

theorem Effect.runIds {op : Operation} {s t : Schedule} {step : Step} (effect : Effect op s step t)
    (h : s.Coherent) : t.runIds.Perm (s.runIds ++ step.launchedIds) := by
  cases effect with
  | launched life now mem ready lives _ _ ids =>
    have hpending := ((isReady_iff _ _).mp ready).1
    have hruns := (h.lifecycles life mem).pending_iff.mp hpending
    rw [runIds_congr lives, ids]
    refine runIds_put h.distinct (life.opened now) mem rfl ?_
    simp [Lifecycle.opened, Lifecycle.nextId, hruns]
  | closed life new index report now _ mem opened spec runs lives _ _ ids =>
    rw [runIds_congr lives, ids]
    refine runIds_put h.distinct _ mem (Lifecycle.name_eq_of_spec spec) ?_
    rw [runs, (h.lifecycles life mem).closedRuns_ids report opened, List.append_nil]
  | retried life index report now _ mem opened lives _ _ ids =>
    have hlife := h.lifecycles life mem
    rw [runIds_congr lives, ids]
    refine runIds_put h.distinct ((life.tolerated report).opened now) mem rfl ?_
    rw [← hlife.closedRuns_ids report opened, ← hlife.nextId_tolerated report opened]
    simp [Lifecycle.opened, Lifecycle.tolerated]
  | none lives _ _ ids => rw [runIds_congr lives, ids, List.append_nil]

theorem Effect.launchedIds {op : Operation} {s t : Schedule} {step : Step}
    (effect : Effect op s step t) :
    (step.transitions.filter (·.isLaunch)).map (·.id) = step.launchedIds := by
  cases effect with
  | launched _ _ _ _ _ _ transitions ids | closed _ _ _ _ _ _ _ _ _ _ _ _ transitions ids
  | retried _ _ _ _ _ _ _ _ _ transitions ids | none _ _ transitions ids =>
    rw [transitions, ids]
    rfl

theorem Changes.runIds {op : Operation} {s t : Schedule} {step : Step}
    (changes : Changes op s step t) (h : s.Sound) :
    t.runIds.Perm (s.runIds ++ step.launchedIds) := by
  induction changes with
  | none s => simp [Step.launchedIds]
  | more change _ ih =>
    have hfirst := (change.effect h.coherent).runIds h.coherent
    rw [Step.andThen_launchedIds, ← List.append_assoc]
    exact (ih (change.sound h)).trans (hfirst.append_right _)

theorem Changes.launchedIds {op : Operation} {s t : Schedule} {step : Step}
    (changes : Changes op s step t) (h : s.Sound) :
    (step.transitions.filter (·.isLaunch)).map (·.id) = step.launchedIds := by
  induction changes with
  | none s => rfl
  | more change _ ih =>
    rw [Step.andThen_transitions, Step.andThen_launchedIds, List.filter_append, List.map_append,
      (change.effect h.coherent).launchedIds, ih (change.sound h)]

/-! ## Records -/

namespace Schedule

variable {s : Schedule}

theorem initial_runIds (task : TaskSpec) (options : SchedulerOptions) :
    (initial task options).runIds = [] := by
  rw [runIds, List.flatMap_eq_nil_iff]
  intro life hmem
  rw [(initial_pending hmem).2.1, List.map_nil]

/-- The names of the runs in the records. -/
def recordedIds (schedule : Schedule) : List AttemptId :=
  schedule.records.flatMap fun record => record.2.map (·.id)

theorem mem_records {p : ProcessName} {runs : List Run} :
    (p, runs) ∈ s.records ↔ ∃ life ∈ s.lifecycles, life.runs ≠ [] ∧ life.name = p ∧
      life.runs = runs := by
  simp [records, List.mem_mergeSort, and_assoc]

/-- The records hold the runs of all processes. -/
theorem recordedRuns_perm (s : Schedule) :
    (s.records.flatMap (·.2)).Perm (s.lifecycles.flatMap (·.runs)) := by
  -- Processes without runs are left out, but have no runs to add either.
  have hfilter : ∀ lives : List Lifecycle,
      ((lives.filter fun life => !life.runs.isEmpty).map fun life => (life.name, life.runs)).flatMap
        (fun record : ProcessName × List Run => record.2) = lives.flatMap (·.runs) := by
    intro lives
    induction lives with
    | nil => rfl
    | cons life rest ih =>
      cases hruns : life.runs with
      | nil => simpa [hruns] using ih
      | cons run runs => simpa [hruns] using ih
  rw [← hfilter]
  exact (List.mergeSort_perm _ _).flatMap_right _

theorem recordedIds_perm (s : Schedule) : s.recordedIds.Perm s.runIds := by
  have hperm := (recordedRuns_perm s).map (·.id)
  rwa [List.map_flatMap, List.map_flatMap] at hperm

end Schedule

end Overseer
