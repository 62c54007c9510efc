import Overseer.Proofs.Schedule.Prediction

/-!
# The verdict on a predicted task

A drive starts a task and then completes attempts in flight, any of them at any
time, each with the outcome that is predicted for it. Which attempts are chosen
does not matter for the decision: a task that is decided for failure was not
favourable, because a process that others wait for was predicted to fail or
because the budget was exceeded by failures that were all predicted, and a task
that is decided for success has had all its processes carried through.

Results:
1. `Change.judged`: what decides the task decides it as predicted.
2. `Drive.count`: each step of a drive uses up one of the attempts that the task
   may take.
3. `Drive.verdict`: a drive ends, with the predicted decision.
-/

namespace Overseer

namespace Schedule

variable {s t : Schedule} {life : Lifecycle} {prediction : Prediction}

/-! ## Decisions -/

/-- The decision, if there is one, is the predicted one, and a task that has
succeeded is settled. -/
structure Judged (prediction : Prediction) (schedule : Schedule) : Prop where
  fair : ∀ decision, schedule.decision = some decision →
    (decision = .success ↔ prediction.Favourable schedule.task schedule.options.counting)
  settled : schedule.decision = some .success → schedule.Settled ∧
    ∀ life ∈ schedule.lifecycles, life.state = .failed → life.failures.toNat = life.limit

theorem Judged.of_undecided (h : s.decision = none) : s.Judged prediction where
  fair := by simp [h]
  settled := by simp [h]

theorem Judged.of_failed {reason : FailureReason} (h : s.decision = some (.failed reason))
    (hnot : ¬ prediction.Favourable s.task s.options.counting) : s.Judged prediction where
  fair := by
    intro decision hdecision
    rw [h] at hdecision
    cases hdecision
    constructor
    · intro hcontra
      cases hcontra
    · exact fun hfavourable => absurd hfavourable hnot
  settled := by simp [h]

/-- No more is counted than is predicted, so the prediction exceeds the budget as
well. -/
theorem Coherent.not_favourable_of_exceeded (h : s.Coherent) (ha : s.Accounted)
    (hforetold : s.Reported prediction.Foretells) (fits : s.task.allowance < 2 ^ 32)
    (hover : s.budget.exceeded = true) :
    ¬ prediction.Favourable s.task s.options.counting := by
  have hcounted := counted_le h ha hforetold s.options.counting
  have hpredicted := prediction.failureCount_le s.task s.options.counting
  obtain ⟨hlimited, hmore⟩ :=
    (ha.exceeded_iff (Nat.lt_of_le_of_lt (hcounted.trans hpredicted) fits)).mp hover
  intro hfavourable
  rcases hfavourable.within with hzero | hwithin
  · exact hlimited hzero
  · omega

theorem Coherent.not_favourable_of_failed (h : s.Coherent) (ha : s.Accounted)
    (hforetold : s.Reported prediction.Foretells) (hmem : life ∈ s.lifecycles)
    (hstate : life.state = .failed) (hneeded : s.task.HasDependents life.name)
    (counting : FailureCounting) : ¬ prediction.Favourable s.task counting := by
  have hfollows : prediction.Follows life := hforetold life hmem
  have hfails := hfollows.of_exhausted (h.lifecycles life hmem) (h.limit_eq hmem) hstate
    (ha.exhausted life hmem hstate)
  intro hfavourable
  have hsucceeds := hfavourable.needed life.spec (h.spec_mem hmem) hneeded
  rw [hfails.1] at hsucceeds
  cases hsucceeds

/-- A task whose processes have all ended without a decision for failure was
predicted to succeed. -/
theorem Active.favourable (ha : s.Active) (h : s.Coherent)
    (hforetold : s.Reported prediction.Foretells) (fits : s.task.allowance < 2 ^ 32)
    (hsettled : s.Settled) : prediction.Favourable s.task s.options.counting where
  needed := by
    intro spec hspec hneeded
    rw [← h.specs] at hspec
    obtain ⟨life, hmem, rfl⟩ := List.mem_map.mp hspec
    have hfollows : prediction.Follows life := hforetold life hmem
    have hterminal := hsettled life hmem
    cases hstate : life.state with
    | pending | running => rw [hstate] at hterminal; cases hterminal
    | success =>
      exact (hfollows.of_success (h.lifecycles life hmem) (h.limit_eq hmem) hstate).1
    | failed => exact absurd hneeded (ha.unneeded life hmem hstate)
  within := by
    have hcounted := counted_eq h ha.accounted hforetold hsettled s.options.counting
    have hpredicted := prediction.failureCount_le s.task s.options.counting
    have hiff := ha.accounted.exceeded_iff (by omega)
    rw [ha.within] at hiff
    by_contra hnot
    rw [not_or, Nat.not_le] at hnot
    exact absurd (hiff.mpr ⟨hnot.1, by omega⟩) (by decide)

end Schedule

open Schedule

/-- A change that decides the task decides it as predicted. -/
theorem Change.judged {op : Operation} {s t : Schedule} {step : Step} {prediction : Prediction}
    (change : Change op s step t) (h : s.Sound) (hop : op ≠ .cancel)
    (fits : s.task.allowance < 2 ^ 32) (hforetold : s.Reported prediction.Foretells)
    (hcall : ∀ id report now, op = .complete id report now → prediction.Foretells id report)
    (hjudged : s.Judged prediction) : t.Judged prediction := by
  have hc := change.coherent h.coherent
  have ht := (change.effect h.coherent).reported h.coherent hcall hforetold
  -- Before the decision the changes that make one matter, after it only late completions.
  by_cases hs : s.decision = none
  · have hactive := h.active hs
    have ha := change.accounted h.coherent hactive.accounted hs
    cases change with
    | launch | succeed | retry | tolerate => exact .of_undecided hs
    | overrun _ _ _ _ _ _ exceeded | exhaust _ _ _ _ _ _ _ exceeded =>
      exact .of_failed rfl (hc.not_favourable_of_exceeded ha ht fits exceeded)
    | @fatal life _ _ _ _ _ mem _ _ _ waited =>
      refine .of_failed rfl (hc.not_favourable_of_failed ha ht
        (mem_put_self h.coherent.distinct mem rfl) (Lifecycle.givenUp_state life _) ?_ _)
      exact s.task.isPredecessor_iff.mp waited
    | late _ decided => exact absurd hs decided
    | cancel call => exact absurd call hop
    | conclude _ settled =>
      have hsettled := hactive.settled settled
      have hfavourable := hactive.favourable h.coherent hforetold fits hsettled
      refine ⟨fun decision hdecision => ?_, fun _ => ⟨hsettled, ha.exhausted⟩⟩
      cases hdecision
      exact ⟨fun _ => hfavourable, fun _ => rfl⟩
  · cases change with
    -- After a success all processes have ended, and nothing can come late.
    | @late life _ _ _ _ _ mem opened =>
      refine ⟨hjudged.fair, fun hsuccess => ?_⟩
      have hterminal := (hjudged.settled hsuccess).1 life mem
      rw [(h.coherent.lifecycles life mem).running_of_openAttempt? opened] at hterminal
      cases hterminal
    | launch _ undecided | succeed _ undecided | retry _ undecided | overrun _ undecided
    | tolerate _ undecided | exhaust _ undecided | fatal _ undecided | cancel _ undecided
    | conclude undecided => exact absurd undecided hs

theorem Changes.judged {op : Operation} {s t : Schedule} {step : Step} {prediction : Prediction}
    (changes : Changes op s step t) (h : s.Sound) (hop : op ≠ .cancel)
    (fits : s.task.allowance < 2 ^ 32) (hforetold : s.Reported prediction.Foretells)
    (hcall : ∀ id report now, op = .complete id report now → prediction.Foretells id report)
    (hjudged : s.Judged prediction) : t.Judged prediction := by
  induction changes with
  | none s => exact hjudged
  | more change _ ih =>
    have hreported := (change.effect h.coherent).reported h.coherent hcall hforetold
    exact ih (change.sound h) (change.task ▸ fits) hreported
      (change.judged h hop fits hforetold hcall hjudged)

/-! ## Drives -/

/-- `Drive task options prediction n s`: a start of the task and `n` completions
of attempts in flight, each as predicted, lead to `s`. -/
inductive Drive (task : TaskSpec) (options : SchedulerOptions) (prediction : Prediction) :
    Nat → Schedule → Prop
  | start (now : Instant) : Drive task options prediction 0 ((initial task options).start now).1
  | complete {n : Nat} {s : Schedule} (drive : Drive task options prediction n s)
      (id : AttemptId) (report : Report) (now : Instant) (inFlight : id ∈ s.inFlight)
      (foretold : prediction.Foretells id report) :
      Drive task options prediction (n + 1) (s.complete id report now).1

namespace Schedule

/-- What is launched is in flight or closed at the end of an operation. -/
theorem apply_count {s : Schedule} (h : s.Sound) (op : Operation) :
    (s.apply op).1.runIds.length + s.inFlight.length =
      s.runIds.length + (s.apply op).1.inFlight.length + (s.apply op).2.closings.length := by
  have hflight := ((apply_changes h op).inFlight h).length_eq
  have hruns := ((apply_changes h op).runIds h).length_eq
  simp only [List.length_append, Step.closedIds, List.length_map] at hflight hruns
  omega

/-- There are no more runs than the processes of the task may have. -/
theorem Coherent.runIds_length_le {s : Schedule} (h : s.Coherent) :
    s.runIds.length ≤ s.task.allowance := by
  rw [runIds, List.length_flatMap, TaskSpec.allowance, ← h.specs, List.map_map]
  refine List.sum_le_sum fun life hmem => ?_
  rw [List.length_map, Function.comp_apply, ← h.limit_eq hmem]
  exact (h.lifecycles life hmem).length_le

end Schedule

namespace Drive

variable {task : TaskSpec} {options : SchedulerOptions} {prediction : Prediction} {n : Nat}
  {s : Schedule}

theorem started (drive : Drive task options prediction n s) : Started task options s := by
  induction drive with
  | start now => exact ⟨now, [], rfl⟩
  | complete _ id report now _ _ ih =>
    obtain ⟨first, ops, rfl⟩ := ih
    refine ⟨first, ops ++ [.complete id report now], ?_⟩
    rw [← List.cons_append, after_append]
    rfl

theorem sound (drive : Drive task options prediction n s) : s.Sound := drive.started.reachable.sound

theorem task_eq (drive : Drive task options prediction n s) : s.task = task :=
  drive.started.reachable.task_eq

theorem options_eq (drive : Drive task options prediction n s) : s.options = options :=
  drive.started.reachable.options_eq

theorem reported (drive : Drive task options prediction n s) :
    s.Reported prediction.Foretells := by
  induction drive with
  | start now =>
    have hsound := initial_sound task options
    exact (apply_changes hsound (.start now)).reported hsound
      (fun _ _ _ hcall => by cases hcall) (initial_reported _)
  | complete drive id report now _ foretold ih =>
    refine (apply_changes drive.sound (.complete id report now)).reported drive.sound ?_ ih
    intro id' report' now' hcall
    cases hcall
    exact foretold

theorem judged (drive : Drive task options prediction n s) (fits : task.allowance < 2 ^ 32) :
    s.Judged prediction := by
  induction drive with
  | start now =>
    have hsound := initial_sound task options
    exact (apply_changes hsound (.start now)).judged hsound (by simp) fits (initial_reported _)
      (fun _ _ _ hcall => by cases hcall) (.of_undecided rfl)
  | complete drive id report now _ foretold ih =>
    refine (apply_changes drive.sound (.complete id report now)).judged drive.sound
      (by simp) (drive.task_eq ▸ fits) drive.reported ?_ ih
    intro id' report' now' hcall
    cases hcall
    exact foretold

/-- Each completion closes one of the recorded runs. -/
theorem count (drive : Drive task options prediction n s) :
    n + s.inFlight.length = s.runIds.length := by
  induction drive with
  | start now =>
    have hsound := initial_sound task options
    have hclosings : ((initial task options).apply (.start now)).2.closings = [] :=
      apply_closings_eq_nil hsound fun _ _ _ hcall => by cases hcall
    have hcount := apply_count hsound (.start now)
    rw [hclosings, initial_runIds, initial_inFlight] at hcount
    simpa [apply] using hcount.symm
  | @complete _ s drive id report now inFlight _ ih =>
    have hclosings : (s.apply (.complete id report now)).2.closings =
        [Transition.closing id report] :=
      (complete_inFlight drive.sound inFlight report now).closings drive.sound
    have hcount := apply_count drive.sound (.complete id report now)
    rw [hclosings, List.length_singleton] at hcount
    simp only [apply] at hcount
    omega

/-- With nothing in flight the task is decided. -/
theorem decided (drive : Drive task options prediction n s) (hdone : s.inFlight = []) :
    ∃ decision, s.decision = some decision := by
  cases hdecision : s.decision with
  | some decision => exact ⟨decision, rfl⟩
  | none =>
    have hbusy := drive.started.busy hdecision
    exact absurd hdone (hbusy.inFlight_ne_nil drive.sound hdecision)

/-- Whatever attempts are chosen, a drive is over after a limited number of
completions. The task is decided then, for success exactly if the prediction is
favourable. In that case each process has ended as predicted, after the attempts
that it needed. -/
theorem verdict (drive : Drive task options prediction n s) (fits : task.allowance < 2 ^ 32) :
    n ≤ task.allowance ∧
    (s.inFlight = [] → ∃ decision, s.decision = some decision ∧
      (decision = .success ↔ prediction.Favourable task options.counting) ∧
      (decision = .success → ∀ spec ∈ task.processes,
        s.stateOf? spec.name = some (if prediction.succeeds spec then .success else .failed) ∧
        ∃ runs, (spec.name, runs) ∈ s.records ∧
          runs.map (·.id) =
            (List.range (prediction.attempts spec)).map (fun n => ⟨spec.name, UInt32.ofNat n⟩) ∧
          ∀ run ∈ runs, ∃ report met, run.phase = .ended report met ∧
            report.outcome = prediction run.id)) := by
  have hc := drive.sound.coherent
  have hjudged := drive.judged fits
  refine ⟨?_, fun hdone => ?_⟩
  · have hlength := hc.runIds_length_le
    rw [drive.task_eq] at hlength
    have hcount := drive.count
    omega
  obtain ⟨decision, hdecision⟩ := drive.decided hdone
  refine ⟨decision, hdecision, ?_, ?_⟩
  · rw [← drive.task_eq, ← drive.options_eq]
    exact hjudged.fair decision hdecision
  · rintro rfl spec hspec
    rw [← drive.task_eq, ← hc.specs] at hspec
    obtain ⟨life, hmem, rfl⟩ := List.mem_map.mp hspec
    obtain ⟨hsettled, hexhausted⟩ := hjudged.settled hdecision
    have hlife := hc.lifecycles life hmem
    have hterminal := hsettled life hmem
    have hfollows : prediction.Follows life := drive.reported life hmem
    obtain ⟨hstate, _, hlength⟩ := hfollows.of_terminal hlife (hc.limit_eq hmem)
      (hexhausted life hmem) hterminal
    have hruns : life.runs ≠ [] := by
      intro hnil
      rw [hlife.pending_iff.mpr hnil] at hterminal
      cases hterminal
    refine ⟨(stateOf?_eq_some hc.distinct).mpr ⟨life, hmem, rfl, hstate⟩, life.runs,
      mem_records.mpr ⟨life, hmem, hruns, rfl, rfl⟩, ?_, ?_⟩
    · rw [hlife.numbered, hlength]
      rfl
    · intro run hrun
      obtain ⟨report, met, hphase⟩ := hlife.ended_of_terminal hterminal hrun
      exact ⟨report, met, hphase, hfollows run hrun report met hphase⟩

/-- With one failure predicted for `first`, the task of two processes is over
after three completions and succeeds, failed attempts counting. -/
theorem verdict_pair :
    let prediction : Prediction := fun id => if id = ⟨"first", 0⟩ then .noExitCode else .success
    ∃ s, Drive .pair { counting := .attempts } prediction 3 s ∧ TaskSpec.pair.allowance < 2 ^ 32 ∧
      s.inFlight = [] ∧ s.decision = some .success ∧ prediction.Favourable .pair .attempts := by
  intro prediction
  have one := Drive.complete (.start ⟨0⟩ : Drive .pair { counting := .attempts } prediction 0 _)
    ⟨"first", 0⟩ ⟨.noExitCode, ⟨0⟩, ⟨1⟩⟩ ⟨1⟩ (by decide) rfl
  have two := one.complete ⟨"first", 1⟩ ⟨.success, ⟨1⟩, ⟨2⟩⟩ ⟨2⟩ (by decide) rfl
  have three := two.complete ⟨"second", 0⟩ ⟨.success, ⟨2⟩, ⟨3⟩⟩ ⟨3⟩ (by decide) rfl
  have fits : TaskSpec.pair.allowance < 2 ^ 32 := by decide
  obtain ⟨decision, hdecision, hfair, _⟩ := (three.verdict fits).2 (by decide)
  have hsuccess : decision = .success := Option.some.inj (hdecision.symm.trans (by decide))
  subst hsuccess
  exact ⟨_, three, fits, by decide, hdecision, hfair.mp rfl⟩

end Drive

end Overseer
