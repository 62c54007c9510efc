import Overseer.Proofs.Schedule.Dispatch

/-!
# What a decision leaves in flight

What has been launched and has not been closed is in flight, and this is read off the
answers of a schedule alone: off the attempts that its steps launch and the ends of
attempts that they announce. A step that decides launches nothing. If it decides for
failure it asks to stop all that is in flight, and if it decides for success nothing is.
No other step of a run asks to stop anything, before it or after it, so that every
attempt of the run is closed by then or asked to stop then, and no attempt is asked twice.

Results:
1. `after_inFlight_count`, `mem_inFlight_iff`: launches, ends and what is in flight.
2. `Reachable.of_decides`: a step that decides stops all it leaves in flight.
3. `stoppedBy_nodup`, `stops_once`: one step at most asks to stop anything.
4. `nothing_orphaned`: what becomes of the attempts of a run at the decision.
-/

namespace Overseer

namespace Schedule

/-! ## What a run answers -/

/-- The attempts that the given operations launch, in order. -/
def launchedBy (schedule : Schedule) (ops : List Operation) : List AttemptId :=
  (schedule.steps ops).flatMap (·.launchedIds)

/-- The attempts whose end the given operations announce, in order. -/
def closedBy (schedule : Schedule) (ops : List Operation) : List AttemptId :=
  (schedule.steps ops).flatMap (·.closedIds)

/-- The attempts that the given operations ask to stop, in order. -/
def stoppedBy (schedule : Schedule) (ops : List Operation) : List AttemptId :=
  (schedule.steps ops).flatMap (·.toStop)

variable {s : Schedule} {op : Operation} {id : AttemptId}

theorem steps_append (s : Schedule) (first second : List Operation) :
    s.steps (first ++ second) = s.steps first ++ (s.after first).steps second := by
  induction first generalizing s with
  | nil => rfl
  | cons op rest ih => exact congrArg (_ :: ·) (ih (s.apply op).1)

theorem launchedBy_append (s : Schedule) (first second : List Operation) :
    s.launchedBy (first ++ second) = s.launchedBy first ++ (s.after first).launchedBy second := by
  simp only [launchedBy, steps_append, List.flatMap_append]

theorem closedBy_append (s : Schedule) (first second : List Operation) :
    s.closedBy (first ++ second) = s.closedBy first ++ (s.after first).closedBy second := by
  simp only [closedBy, steps_append, List.flatMap_append]

/-- What the last operation ends is ended in the run. -/
theorem mem_closedBy_concat {before : List Operation}
    (ended : id ∈ ((s.after before).apply op).2.closedIds) : id ∈ s.closedBy (before ++ [op]) := by
  rw [closedBy_append]
  refine List.mem_append_right _ ?_
  rw [closedBy, steps, List.flatMap_cons]
  exact List.mem_append_left _ ended

theorem after_inFlight_count (h : s.Sound) (ops : List Operation) (id : AttemptId) :
    (s.after ops).inFlight.count id + (s.closedBy ops).count id =
      s.inFlight.count id + (s.launchedBy ops).count id := by
  induction ops generalizing s with
  | nil => rfl
  | cons op rest ih =>
    have hfirst := apply_inFlight_count h op id
    have hrest := ih (apply_sound h op)
    simp only [after_cons, closedBy, launchedBy, steps, List.flatMap_cons, List.count_append]
      at hrest ⊢
    omega

theorem after_runIds (h : s.Sound) (ops : List Operation) :
    (s.after ops).runIds.Perm (s.runIds ++ s.launchedBy ops) := by
  induction ops generalizing s with
  | nil => simp [launchedBy, steps]
  | cons op rest ih =>
    have hfirst := (apply_changes h op).runIds h
    simp only [after_cons, launchedBy, steps, List.flatMap_cons] at ih ⊢
    rw [← List.append_assoc]
    exact (ih (apply_sound h op)).trans (hfirst.append_right _)

variable {task : TaskSpec} {options : SchedulerOptions}

/-- No attempt is launched twice. -/
theorem launchedBy_nodup (task : TaskSpec) (options : SchedulerOptions) (ops : List Operation) :
    ((initial task options).launchedBy ops).Nodup := by
  have hinitial := initial_sound task options
  have hperm := after_runIds hinitial ops
  rw [initial_runIds, List.nil_append] at hperm
  exact hperm.nodup (runIds_nodup (after_sound hinitial ops).coherent)

/-- In flight is what was launched and has not ended. -/
theorem mem_inFlight_iff (task : TaskSpec) (options : SchedulerOptions) (ops : List Operation)
    (id : AttemptId) :
    id ∈ ((initial task options).after ops).inFlight ↔
      id ∈ (initial task options).launchedBy ops ∧ id ∉ (initial task options).closedBy ops := by
  have hinitial := initial_sound task options
  have hcount := after_inFlight_count hinitial ops id
  rw [initial_inFlight, List.count_nil, Nat.zero_add] at hcount
  have honce := List.nodup_iff_count_le_one.mp (launchedBy_nodup task options ops) id
  rw [← List.one_le_count_iff, ← List.one_le_count_iff, ← List.count_eq_zero]
  omega

/-! ## Steps that decide -/

theorem apply_decides (h : s.Sound) (decides : (s.apply op).2.decision ≠ none) :
    s.decision = none ∧ (s.apply op).1.decision = (s.apply op).2.decision := by
  have undecided : s.decision = none := by
    by_contra decided
    exact decides (apply_aftermath h decided op).silent.decision
  refine ⟨undecided, ?_⟩
  rw [apply_decision h, undecided, Option.none_or]

/-- Launches and ends account for what a step leaves in flight. -/
theorem launchedIds_eq_nil (h : s.Sound) (hidle : (s.apply op).1.inFlight = []) :
    (s.apply op).2.launchedIds = [] := by
  refine List.eq_nil_iff_forall_not_mem.mpr fun id hid => ?_
  have hcount := apply_inFlight_count h op id
  have hclosed := apply_closedIds_count h op id
  have hone := List.one_le_count_iff.mpr hid
  rw [hidle, List.count_nil] at hcount
  omega

theorem Reachable.inFlight_of_success (h : Reachable task options s)
    (hsuccess : (s.apply op).2.decision = some .success) : (s.apply op).1.inFlight = [] := by
  have decides : (s.apply op).2.decision ≠ none := hsuccess ▸ Option.some_ne_none _
  have hnext : Reachable task options (s.apply op).1 := h.after [op]
  exact hnext.inFlight_eq_nil ((apply_decides h.sound decides).2.trans hsuccess)

/-- A step that decides launches nothing, and asks to stop all that it leaves in flight. -/
theorem Reachable.of_decides (h : Reachable task options s)
    (decides : (s.apply op).2.decision ≠ none) :
    (s.apply op).2.launched = [] ∧ (s.apply op).2.toStop = (s.apply op).1.inFlight := by
  cases apply_stops h.sound op with
  | all _ _ launched toStop => exact ⟨launched, toStop⟩
  | none nofail toStop =>
    -- The decision is for success, which finds nothing in flight.
    have hsuccess : (s.apply op).2.decision = some .success := by
      cases hdecision : (s.apply op).2.decision with
      | none => exact absurd hdecision decides
      | some decision =>
        cases decision with
        | success => rfl
        | failed reason => exact absurd hdecision (nofail reason)
    have hidle := h.inFlight_of_success hsuccess
    exact ⟨List.map_eq_nil_iff.mp (launchedIds_eq_nil h.sound hidle), toStop.trans hidle.symm⟩

/-- A step that asks to stop anything decides. -/
theorem apply_decides_of_stops (h : s.Sound) (stops : (s.apply op).2.toStop ≠ []) :
    (s.apply op).2.decision ≠ none := by
  cases apply_stops h op with
  | all reason decision _ _ =>
    rw [decision]
    exact Option.some_ne_none _
  | none _ toStop => exact absurd toStop stops

theorem apply_toStop_nodup (h : s.Sound) (op : Operation) : (s.apply op).2.toStop.Nodup := by
  cases apply_stops h op with
  | all _ _ _ toStop =>
    rw [toStop]
    exact inFlight_nodup (apply_sound h op).coherent
  | none _ toStop =>
    rw [toStop]
    exact List.nodup_nil

/-! ## Steps before and after the decision -/

theorem after_undecided (h : s.Sound) {ops : List Operation}
    (undecided : (s.after ops).decision = none) : s.decision = none := by
  by_contra decided
  have hfrozen := (after_frozen h decided ops).1
  exact decided (hfrozen.decision.symm.trans undecided)

theorem stops_nothing_undecided (h : s.Sound) {ops : List Operation}
    (undecided : (s.after ops).decision = none) : ∀ step ∈ s.steps ops, step.toStop = [] := by
  induction ops generalizing s with
  | nil => exact fun step hstep => absurd hstep List.not_mem_nil
  | cons op rest ih =>
    have hsound := apply_sound h op
    refine List.forall_mem_cons.mpr ⟨?_, ih hsound undecided⟩
    by_contra stops
    have decides := apply_decides_of_stops h stops
    exact decides ((apply_decides h decides).2 ▸ after_undecided hsound undecided)

/-- If one step of a run asks to stop something, no other does. -/
theorem stops_once (h : s.Sound) (before after : List Operation)
    (stops : ((s.after before).apply op).2.toStop ≠ []) :
    ∀ other ∈ s.steps before ++ ((s.after before).apply op).1.steps after, other.toStop = [] := by
  have hbefore := after_sound h before
  have decides := apply_decides_of_stops hbefore stops
  obtain ⟨undecided, hdecision⟩ := apply_decides hbefore decides
  have decided : ((s.after before).apply op).1.decision ≠ none := hdecision ▸ decides
  intro other hother
  rcases List.mem_append.mp hother with hearlier | hlater
  · exact stops_nothing_undecided h undecided other hearlier
  · exact ((after_frozen (apply_sound hbefore op) decided after).2 other hlater).toStop

theorem stoppedBy_nodup (h : s.Sound) (ops : List Operation) : (s.stoppedBy ops).Nodup := by
  induction ops generalizing s with
  | nil => exact List.nodup_nil
  | cons op rest ih =>
    have hsound := apply_sound h op
    by_cases stops : (s.apply op).2.toStop = []
    · rw [stoppedBy, steps, List.flatMap_cons, stops]
      exact ih hsound
    · have hrest : (s.apply op).1.stoppedBy rest = [] :=
        List.flatMap_eq_nil_iff.mpr (stops_once h [] rest stops)
      rw [stoppedBy, steps, List.flatMap_cons]
      rw [stoppedBy] at hrest
      rw [hrest, List.append_nil]
      exact apply_toStop_nodup h op

theorem launchedBy_of_decided (h : s.Sound) (decided : s.decision ≠ none)
    (ops : List Operation) : s.launchedBy ops = [] := by
  refine List.flatMap_eq_nil_iff.mpr fun step hstep => ?_
  rw [Step.launchedIds, ((after_frozen h decided ops).2 step hstep).launched, List.map_nil]

/-- A run launches nothing after the step that decides. -/
theorem launchedBy_through_decision (h : s.Sound) (before after : List Operation)
    (decides : ((s.after before).apply op).2.decision ≠ none) :
    s.launchedBy (before ++ op :: after) = s.launchedBy (before ++ [op]) := by
  have hbefore := after_sound h before
  have decided : ((s.after before).apply op).1.decision ≠ none :=
    (apply_decides hbefore decides).2 ▸ decides
  have hlater : ((s.after before).apply op).1.launchedBy after = [] :=
    launchedBy_of_decided (apply_sound hbefore op) decided after
  rw [List.append_cons, launchedBy_append, after_append, after_cons, after_nil, hlater,
    List.append_nil]

theorem complete_mem_closedIds (h : s.Sound) {report : Report} {now : Instant}
    (decides : (s.apply (.complete id report now)).2.decision ≠ none) :
    id ∈ (s.apply (.complete id report now)).2.closedIds := by
  by_cases hid : id ∈ s.inFlight
  · rw [apply_complete_closedIds h hid]
    exact List.mem_singleton_self id
  · rw [apply, complete_ignored h.coherent.distinct hid] at decides
    exact absurd rfl decides

/-! ## Runs -/

/-- Let `op` be any operation of any run. If it decides, it launches nothing. If it decides
for failure, it asks to stop the attempts that were launched and have not ended, each once
and in declaration order, so not the one whose completion it takes; if it decides for
success, nothing is in flight or asked to stop. Then every attempt that the run ever
launches has ended by then or is asked to stop by `op`. If `op` asks to stop anything, no
other operation of the run does, and over the whole run no attempt is asked twice. -/
theorem nothing_orphaned (task : TaskSpec) (options : SchedulerOptions)
    (before after : List Operation) (op : Operation) :
    let outset := initial task options
    let s := outset.after before
    let step := (s.apply op).2
    (step.decision ≠ none → step.launched = [] ∧
      ∀ id ∈ outset.launchedBy (before ++ op :: after),
        id ∈ outset.closedBy (before ++ [op]) ∨ id ∈ step.toStop) ∧
    (∀ reason, step.decision = some (.failed reason) →
      (step.toStop.map (·.process)).Sublist task.processNames ∧ step.toStop.Nodup ∧
      (∀ id, id ∈ step.toStop ↔
        id ∈ outset.launchedBy (before ++ [op]) ∧ id ∉ outset.closedBy (before ++ [op])) ∧
      ∀ id report now, op = .complete id report now → id ∉ step.toStop) ∧
    (step.decision = some .success → (s.apply op).1.inFlight = [] ∧ step.toStop = []) ∧
    (step.toStop ≠ [] →
      ∀ other ∈ outset.steps before ++ (s.apply op).1.steps after, other.toStop = []) ∧
    (outset.stoppedBy (before ++ op :: after)).Nodup := by
  intro outset s step
  have hinitial := initial_sound task options
  have hs : Reachable task options s := ⟨before, rfl⟩
  have hsound := hs.sound
  have hflight : ∀ id, id ∈ (s.apply op).1.inFlight ↔
      id ∈ outset.launchedBy (before ++ [op]) ∧ id ∉ outset.closedBy (before ++ [op]) := by
    intro id
    rw [← mem_inFlight_iff, after_append]
    rfl
  refine ⟨fun decides => ?_, fun reason hreason => ?_, fun hsuccess => ?_,
    stops_once hinitial before after, stoppedBy_nodup hinitial _⟩
  · obtain ⟨hlaunched, htoStop⟩ := hs.of_decides decides
    refine ⟨hlaunched, fun id hid => ?_⟩
    rw [launchedBy_through_decision hinitial before after decides] at hid
    refine or_iff_not_imp_left.mpr fun hopen => ?_
    rw [htoStop]
    exact (hflight id).mpr ⟨hid, hopen⟩
  · have decides : step.decision ≠ none := hreason ▸ Option.some_ne_none _
    have htoStop : step.toStop = (s.apply op).1.inFlight := (hs.of_decides decides).2
    have hmem : ∀ id, id ∈ step.toStop ↔
        id ∈ outset.launchedBy (before ++ [op]) ∧ id ∉ outset.closedBy (before ++ [op]) :=
      fun id => htoStop ▸ hflight id
    refine ⟨?_, apply_toStop_nodup hsound op, hmem, ?_⟩
    · rw [htoStop, ← (hs.after [op]).task_eq]
      exact inFlight_sublist (apply_sound hsound op).coherent
    · rintro id report now rfl hid
      exact ((hmem id).mp hid).2 (mem_closedBy_concat (complete_mem_closedIds hsound decides))
  · have decides : step.decision ≠ none := hsuccess ▸ Option.some_ne_none _
    have hidle := hs.inFlight_of_success hsuccess
    exact ⟨hidle, (hs.of_decides decides).2.trans hidle⟩

/-- `left` fails for good while `right` is in flight: `right` alone is asked to stop, and
its completion asks nothing more. -/
theorem nothing_orphaned_diamond :
    let before : List Operation := [.start ⟨0⟩, .complete ⟨"top", 0⟩ ⟨.success, ⟨0⟩, ⟨1⟩⟩ ⟨1⟩]
    let op : Operation := .complete ⟨"left", 0⟩ ⟨.noExitCode, ⟨1⟩, ⟨2⟩⟩ ⟨2⟩
    let after : List Operation := [.complete ⟨"right", 0⟩ ⟨.noExitCode, ⟨1⟩, ⟨3⟩⟩ ⟨3⟩]
    let outset := initial .diamond {}
    let s := outset.after before
    let step := (s.apply op).2
    step.decision = some (.failed (.dependencyFailed "left")) ∧ step.launched = [] ∧
      step.toStop = [⟨"right", 0⟩] ∧ ⟨"left", 0⟩ ∉ step.toStop ∧
      (∀ id ∈ outset.launchedBy (before ++ op :: after),
        id ∈ outset.closedBy (before ++ [op]) ∨ id ∈ step.toStop) ∧
      ∀ other ∈ outset.steps before ++ (s.apply op).1.steps after, other.toStop = [] := by
  intro before op after
  have hdecision : (((initial .diamond {}).after before).apply op).2.decision =
      some (.failed (.dependencyFailed "left")) := by decide
  have htoStop : (((initial .diamond {}).after before).apply op).2.toStop = [⟨"right", 0⟩] := by
    decide
  obtain ⟨hdecides, hfails, _, honce, _⟩ := nothing_orphaned .diamond {} before after op
  obtain ⟨hlaunched, hcovered⟩ := hdecides (by simp [hdecision])
  obtain ⟨_, _, _, hcause⟩ := hfails _ hdecision
  exact ⟨hdecision, hlaunched, htoStop, hcause _ _ _ rfl, hcovered, honce (by simp [htoStop])⟩

end Schedule

end Overseer
