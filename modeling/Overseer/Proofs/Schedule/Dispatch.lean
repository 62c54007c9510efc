import Overseer.Proofs.Schedule.DecisionRule
import Overseer.Proofs.Schedule.Finality

/-!
# What a step asks of the executor

A step launches attempts and asks to stop others, but never both: only a decision
for failure stops anything, it stops all that is in flight, and nothing is launched
with it. What is in flight is listed in declaration order, with one attempt of a
process at most, and the records show exactly these attempts as open.

Results:
1. `apply_stops`: what is stopped, and when.
2. `apply_inFlight_count`: completions, launches and what is in flight add up.
3. `inFlight_sublist`, `inFlight_nodup`, `length_inFlight_le`: attempts in flight.
4. `openRuns_perm`: the open runs of the records.
-/

namespace Overseer

open Schedule

/-- What `step` stops, with `t` the schedule after it. -/
inductive Step.Stops (t : Schedule) (step : Step) : Prop
  /-- The task fails, and everything in flight is to be stopped. -/
  | all (reason : FailureReason) (decision : step.decision = some (.failed reason))
      (launched : step.launched = []) (toStop : step.toStop = t.inFlight)
  | none (decision : ∀ reason, step.decision ≠ some (.failed reason)) (toStop : step.toStop = [])

section Stops

variable {op : Operation} {s t : Schedule} {step : Step}

theorem Change.stops (change : Change op s step t) : step.Stops t := by
  cases change with
  | launch | succeed | retry | tolerate | late | conclude => exact .none (by simp) rfl
  | overrun | exhaust | fatal | cancel => exact .all _ rfl rfl rfl

/-- Launches stop nothing, and do not make the task fail. -/
theorem Changes.stops_nothing {now : Instant} (launches : Changes (.start now) s step t) :
    (∀ reason, step.decision ≠ some (.failed reason)) ∧ step.toStop = [] := by
  induction launches with
  | none s => exact ⟨by simp, rfl⟩
  | more change launches ih =>
    cases change with
    | launch => simpa [Step.andThen] using ih
    | conclude =>
      obtain ⟨rfl, rfl⟩ := launches.start_of_decided (by simp)
      exact ⟨by simp, rfl⟩
    | succeed call | retry call | overrun call | tolerate call | exhaust call | fatal call
    | late call | cancel call => cases call

end Stops

namespace Schedule

variable {s : Schedule} {op : Operation} {id : AttemptId} {life : Lifecycle}

theorem apply_stops (h : s.Sound) (op : Operation) :
    (s.apply op).2.Stops (s.apply op).1 := by
  obtain ⟨now, t, first, rest, hfirst, launches, hstep⟩ := apply_split h op
  rw [hstep]
  obtain ⟨hdecision, htoStop⟩ := launches.stops_nothing
  rcases hfirst with ⟨rfl, rfl⟩ | change
  · exact .none (by simpa using hdecision) (by simpa [Step.andThen] using htoStop)
  cases change.stops with
  | all reason decision launched toStop =>
    -- The change has decided the task, so that nothing is launched after it.
    have decided : t.decision ≠ none := by simp [change.decision, decision]
    obtain ⟨hsame, rfl⟩ := launches.start_of_decided decided
    rw [hsame, Step.andThen_nil]
    exact .all reason decision launched toStop
  | none decision toStop =>
    refine .none (fun reason hboth => ?_) (by simp [Step.andThen, toStop, htoStop])
    rw [Step.andThen_decision, Option.or_eq_some_iff] at hboth
    rcases hboth with hfirst | ⟨_, hrest⟩
    · exact decision reason hfirst
    · exact hdecision reason hrest

theorem isDecided_eq_false : s.isDecided = false ↔ s.decision = none :=
  Option.isSome_eq_false_iff.trans Option.isNone_iff_eq_none

theorem apply_isDecided (h : s.Sound) (op : Operation) :
    (s.apply op).1.isDecided = (s.isDecided || (s.apply op).2.decision.isSome) := by
  rw [isDecided, apply_decision h, Option.isSome_or]
  rfl

/-! ## Attempts in flight -/

/-- A completion closes the attempt that it names. -/
theorem apply_complete_closedIds (h : s.Sound) (hid : id ∈ s.inFlight) (report : Report)
    (now : Instant) : (s.apply (.complete id report now)).2.closedIds = [id] := by
  rw [Step.closedIds, apply, (complete_inFlight h hid report now).closings h]
  rfl

theorem apply_cancel_closedIds (h : s.Sound) : (s.apply .cancel).2.closedIds = [] := by
  rw [Step.closedIds, apply_closings_eq_nil h fun _ _ _ hcall => by cases hcall]
  rfl

theorem apply_inFlight_count (h : s.Sound) (op : Operation) (id : AttemptId) :
    (s.apply op).1.inFlight.count id + (s.apply op).2.closedIds.count id =
      s.inFlight.count id + (s.apply op).2.launchedIds.count id := by
  have hperm := ((apply_changes h op).inFlight h).count_eq id
  rwa [List.count_append, List.count_append] at hperm

/-- Only what is in flight is closed. -/
theorem apply_closedIds_count (h : s.Sound) (op : Operation) (id : AttemptId) :
    (s.apply op).2.closedIds.count id ≤ s.inFlight.count id := by
  cases op with
  | start now =>
    rw [Step.closedIds, apply_closings_eq_nil h fun _ _ _ hcall => by cases hcall]
    exact Nat.zero_le _
  | cancel =>
    rw [apply_cancel_closedIds h]
    exact Nat.zero_le _
  | complete other report now =>
    by_cases hother : other ∈ s.inFlight
    · rw [apply_complete_closedIds h hother, List.count_singleton]
      split
      · next heq => exact List.one_le_count_iff.mpr (eq_of_beq heq ▸ hother)
      · exact Nat.zero_le _
    · rw [apply, complete_ignored h.coherent.distinct hother]
      exact Nat.zero_le _

theorem inFlight_sublist (h : s.Coherent) :
    (s.inFlight.map (·.process)).Sublist s.task.processNames := by
  rw [← h.names, inFlight]
  induction s.lifecycles with
  | nil => exact .slnil
  | cons life rest ih =>
    cases hopen : life.openAttempt? with
    | none => simpa [hopen] using ih.cons _
    | some index => simpa [hopen] using ih

theorem inFlight_nodup (h : s.Coherent) : s.inFlight.Nodup :=
  ((inFlight_sublist h).nodup s.task.nodup_processNames).of_map _

theorem length_inFlight_le (h : s.Coherent) : s.inFlight.length ≤ s.task.processes.length := by
  have hlength := (inFlight_sublist h).length_le
  rwa [List.length_map, TaskDraft.processNames, List.length_map] at hlength

/-- When all processes have ended nothing is in flight. -/
theorem Settled.inFlight_eq_nil (hsettled : s.Settled) (h : s.Coherent) : s.inFlight = [] := by
  refine List.eq_nil_iff_forall_not_mem.mpr fun id hid => ?_
  obtain ⟨life, hmem, _, hopen⟩ := mem_inFlight.mp hid
  have hterminal := hsettled life hmem
  rw [(h.lifecycles life hmem).running_of_openAttempt? hopen] at hterminal
  cases hterminal

/-- A task that has succeeded has nothing in flight. -/
theorem Reachable.inFlight_eq_nil {task : TaskSpec} {options : SchedulerOptions}
    (h : Reachable task options s) (hsuccess : s.decision = some .success) : s.inFlight = [] :=
  (h.settled_of_success hsuccess).1.inFlight_eq_nil h.sound.coherent

theorem mem_runIds_of_inFlight (hid : id ∈ s.inFlight) (h : s.Coherent) : id ∈ s.runIds := by
  obtain ⟨life, hmem, hname, hopen⟩ := mem_inFlight.mp hid
  obtain ⟨earlier, last, hflight⟩ := (h.lifecycles life hmem).inFlight hopen
  refine List.mem_flatMap.mpr ⟨life, hmem, List.mem_map.mpr ⟨last, ?_, ?_⟩⟩
  · rw [hflight.runs]
    exact List.mem_append_right _ (List.mem_singleton_self last)
  · rw [hflight.id, hname]

end Schedule

/-! ## Open runs -/

/-- The attempt in flight of a process is the only one whose run is open. -/
theorem Lifecycle.Coherent.openIds_eq {life : Lifecycle} (h : life.Coherent) :
    (life.runs.filter (·.state = .running)).map (·.id) = life.openIds := by
  cases hopen : life.openAttempt? with
  | none =>
    have hclosed : ∀ run ∈ life.runs, run.state ≠ .running := by
      intro run hrun hstate
      have hone := h.openAttempt?_of_isOpen hrun ((Run.isOpen_iff run).mpr hstate)
      rw [hopen] at hone
      cases hone
    rw [Lifecycle.openIds_eq_nil hopen, List.map_eq_nil_iff, List.filter_eq_nil_iff]
    simpa using hclosed
  | some index =>
    obtain ⟨earlier, last, hflight⟩ := h.inFlight hopen
    have hearlier : earlier.filter (·.state = .running) = [] := by
      refine List.filter_eq_nil_iff.mpr fun run hrun => ?_
      simp [hflight.failed run hrun]
    have hlast : last.state = .running := (Run.isOpen_iff last).mp hflight.isOpen
    rw [Lifecycle.openIds_eq hopen, hflight.runs, List.filter_append, hearlier]
    simp [hlast, hflight.id]

/-- The open runs of the records are the attempts in flight. -/
theorem Schedule.openRuns_perm {s : Schedule} (h : s.Coherent) :
    (((s.records.flatMap (·.2)).filter (·.state = .running)).map (·.id)).Perm s.inFlight := by
  have hruns : ((s.lifecycles.flatMap (·.runs)).filter (·.state = .running)).map (·.id) =
      s.inFlight := by
    rw [List.filter_flatMap, List.map_flatMap, inFlight_eq]
    exact List.flatMap_congr fun life hmem => (h.lifecycles life hmem).openIds_eq
  rw [← hruns]
  exact ((recordedRuns_perm s).filter _).map _

end Overseer
