import Overseer.Proofs.Schedule.Attempts

/-!
# Completions of attempts

What is in flight was launched and has not ended. The completion of an attempt in
flight is always accepted: it announces the end of that attempt, before or after
the decision, and whatever else it announces are launches. A run that is closed
holds the report that closed it.

Results:
1. `Changes.inFlight`: launches and closings account for what is in flight.
2. `Effect.of_mem_runs`, `Changes.reported`: a closed run holds a report that was
   made for it.
3. `Accepted.transitions`: what an accepted completion announces.
-/

namespace Overseer

open Schedule

/-- The transitions of a step that announce the end of an attempt. -/
def Step.closings (step : Step) : List Transition :=
  step.transitions.filter fun transition => !transition.isLaunch

def Step.closedIds (step : Step) : List AttemptId := step.closings.map (·.id)

@[simp]
theorem Step.andThen_closedIds (first second : Step) :
    (first.andThen second).closedIds = first.closedIds ++ second.closedIds := by
  simp [closedIds, closings]

/-! ## Attempts in flight -/

/-- The attempt in flight, if there is one. -/
def Lifecycle.openIds (life : Lifecycle) : List AttemptId :=
  (life.openAttempt?.map (⟨life.name, ·⟩)).toList

theorem Lifecycle.openIds_eq {life : Lifecycle} {index : UInt32}
    (h : life.openAttempt? = some index) : life.openIds = [⟨life.name, index⟩] := by
  simp [openIds, h]

theorem Lifecycle.openIds_eq_nil {life : Lifecycle} (h : life.openAttempt? = none) :
    life.openIds = [] := by
  simp [openIds, h]

namespace Schedule

variable {s t : Schedule} {life : Lifecycle}

theorem inFlight_eq (s : Schedule) : s.inFlight = s.lifecycles.flatMap (·.openIds) := by
  rw [inFlight, List.filterMap_eq_flatMap_toList]
  rfl

theorem inFlight_congr (h : t.lifecycles = s.lifecycles) : t.inFlight = s.inFlight := by
  rw [inFlight, inFlight, h]

/-- Putting a lifecycle back changes what is in flight as it changes there. -/
theorem inFlight_put (hd : s.Distinct) (new : Lifecycle) (hmem : life ∈ s.lifecycles)
    (hname : new.name = life.name) {closed added : List AttemptId}
    (hids : (new.openIds ++ closed).Perm (life.openIds ++ added)) :
    ((s.put new).inFlight ++ closed).Perm (s.inFlight ++ added) := by
  obtain ⟨front, rest, hsplit, hput, _⟩ := put_split hd hmem hname
  simp only [inFlight_eq, hsplit, hput, List.flatMap_append, List.flatMap_cons,
    List.perm_iff_count, List.count_append] at hids ⊢
  intro id
  have hcount := hids id
  omega

end Schedule

theorem Effect.inFlight {op : Operation} {s t : Schedule} {step : Step}
    (effect : Effect op s step t) (h : s.Coherent) :
    (t.inFlight ++ step.closedIds).Perm (s.inFlight ++ step.launchedIds) := by
  cases effect with
  | launched life now mem ready lives _ transitions ids =>
    have hpending := ((isReady_iff _ _).mp ready).1
    have hruns := (h.lifecycles life mem).pending_iff.mp hpending
    have hopened := Lifecycle.openIds_eq (Lifecycle.openAttempt?_opened life now)
    rw [inFlight_congr lives, ids, Step.closedIds, Step.closings, transitions]
    refine inFlight_put h.distinct (life.opened now) mem rfl ?_
    rw [hopened, Lifecycle.openIds_eq_nil ((h.lifecycles life mem).idle_of_pending hpending)]
    simp [Lifecycle.nextId, hruns, Lifecycle.name_eq_of_spec (Lifecycle.opened_spec life now)]
  | closed life new index report now _ mem opened spec runs lives _ transitions ids =>
    have hclosed := (h.lifecycles life mem).openAttempt?_of_closed opened runs
    rw [inFlight_congr lives, ids, Step.closedIds, Step.closings, transitions]
    refine inFlight_put h.distinct new mem (Lifecycle.name_eq_of_spec spec) ?_
    rw [Lifecycle.openIds_eq_nil hclosed, Lifecycle.openIds_eq opened]
    exact List.Perm.refl _
  | retried life index report now _ mem opened lives _ transitions ids =>
    have hnext := (h.lifecycles life mem).nextId_tolerated report opened
    have hopened := Lifecycle.openIds_eq
      (Lifecycle.openAttempt?_opened (life.tolerated report) now)
    rw [inFlight_congr lives, ids, Step.closedIds, Step.closings, transitions]
    refine inFlight_put h.distinct ((life.tolerated report).opened now) mem rfl ?_
    rw [hopened, hnext, Lifecycle.openIds_eq opened]
    exact List.Perm.swap _ _ _
  | none lives _ transitions ids =>
    rw [inFlight_congr lives, ids, Step.closedIds, Step.closings, transitions]
    exact List.Perm.refl _

theorem Changes.inFlight {op : Operation} {s t : Schedule} {step : Step}
    (changes : Changes op s step t) (h : s.Sound) :
    (t.inFlight ++ step.closedIds).Perm (s.inFlight ++ step.launchedIds) := by
  induction changes with
  | none s => exact List.Perm.refl _
  | more change _ ih =>
    have hfirst := (change.effect h.coherent).inFlight h.coherent
    have hrest := ih (change.sound h)
    simp only [Step.andThen_closedIds, Step.andThen_launchedIds, List.perm_iff_count,
      List.count_append] at hfirst hrest ⊢
    intro id
    have hone := hfirst id
    have hmore := hrest id
    omega

/-- Only completions close attempts. -/
theorem Changes.closes_nothing {op : Operation} {s t : Schedule} {step : Step}
    (changes : Changes op s step t) (h : s.Sound)
    (hop : ∀ id report now, op ≠ .complete id report now) :
    ∀ transition ∈ step.transitions, transition.isLaunch = true := by
  induction changes with
  | none s => simp
  | more change _ ih =>
    intro transition hmem
    rcases List.mem_append.mp hmem with hmem | hmem
    · cases change.effect h.coherent with
      | launched _ _ _ _ _ _ transitions _ =>
        rw [transitions, List.mem_singleton] at hmem
        rw [hmem]
        rfl
      | closed _ _ _ _ _ call | retried _ _ _ _ call => exact absurd call (hop _ _ _)
      | none _ _ transitions _ => simp [transitions] at hmem
    · exact ih (change.sound h) transition hmem

/-! ## Reports -/

/-- Where the runs after an effect come from: each was there before, or is open, or
is closed by the completion that is being made. -/
theorem Effect.of_mem_runs {op : Operation} {s t : Schedule} {step : Step}
    (effect : Effect op s step t) (h : s.Coherent) {new : Lifecycle} {run : Run}
    (hnew : new ∈ t.lifecycles) (hrun : run ∈ new.runs) :
    ∃ life ∈ s.lifecycles, new.spec = life.spec ∧ (run ∈ life.runs ∨ run.isOpen = true ∨
      ∃ report now, op = .complete run.id report now ∧
        run.phase = .ended report (life.spec.minDuration.metBy report.elapsed)) := by
  cases effect with
  | launched life now mem _ lives _ _ _ =>
    rw [lives] at hnew
    rcases of_mem_put hnew h.distinct mem rfl with rfl | ⟨hold, _⟩
    · rcases Lifecycle.of_mem_opened hrun with hrun | hopen
      · exact ⟨life, mem, rfl, Or.inl hrun⟩
      · exact ⟨life, mem, rfl, Or.inr (Or.inl hopen)⟩
    · exact ⟨new, hold, rfl, Or.inl hrun⟩
  | closed life closing index report now call mem opened spec runs lives _ _ _ =>
    rw [lives] at hnew
    rcases of_mem_put hnew h.distinct mem (Lifecycle.name_eq_of_spec spec) with rfl | ⟨hold, _⟩
    · rcases (h.lifecycles life mem).of_mem_closedRuns opened (runs ▸ hrun) with hrun | hclosed
      · exact ⟨life, mem, spec, Or.inl hrun⟩
      · exact ⟨life, mem, spec, Or.inr (Or.inr ⟨report, now, hclosed.1 ▸ call, hclosed.2⟩)⟩
    · exact ⟨new, hold, rfl, Or.inl hrun⟩
  | retried life index report now call mem opened lives _ _ _ =>
    rw [lives] at hnew
    rcases of_mem_put hnew h.distinct mem rfl with rfl | ⟨hold, _⟩
    · rcases Lifecycle.of_mem_opened hrun with hrun | hopen
      · rcases (h.lifecycles life mem).of_mem_closedRuns opened hrun with hrun | hclosed
        · exact ⟨life, mem, rfl, Or.inl hrun⟩
        · exact ⟨life, mem, rfl, Or.inr (Or.inr ⟨report, now, hclosed.1 ▸ call, hclosed.2⟩)⟩
      · exact ⟨life, mem, rfl, Or.inr (Or.inl hopen)⟩
    · exact ⟨new, hold, rfl, Or.inl hrun⟩
  | none lives _ _ _ => exact ⟨new, lives ▸ hnew, rfl, Or.inl hrun⟩

/-- The report of each closed run has the given property. -/
def Schedule.Reported (holds : AttemptId → Report → Prop) (schedule : Schedule) : Prop :=
  ∀ life ∈ schedule.lifecycles, ∀ run ∈ life.runs, ∀ report met,
    run.phase = .ended report met → holds run.id report

section Reported

variable {holds : AttemptId → Report → Prop}

theorem Schedule.Reported.mono {s : Schedule} {weaker : AttemptId → Report → Prop}
    (h : s.Reported holds) (himp : ∀ id report, holds id report → weaker id report) :
    s.Reported weaker :=
  fun life hlife run hrun report met hphase => himp _ _ (h life hlife run hrun report met hphase)

/-- What closes a run is the completion that is being made. -/
theorem Effect.reported {op : Operation} {s t : Schedule} {step : Step}
    (effect : Effect op s step t) (h : s.Coherent)
    (hcall : ∀ id report now, op = .complete id report now → holds id report)
    (hreported : s.Reported holds) : t.Reported holds := by
  intro new hnew run hrun report met hphase
  obtain ⟨life, hmem, _, hold | hopen | ⟨report', now, call, hclosed⟩⟩ :=
    effect.of_mem_runs h hnew hrun
  · exact hreported life hmem run hold report met hphase
  · simp [Run.isOpen, hphase] at hopen
  · rw [hphase] at hclosed
    cases hclosed
    exact hcall _ _ _ call

theorem Changes.reported {op : Operation} {s t : Schedule} {step : Step}
    (changes : Changes op s step t) (h : s.Sound)
    (hcall : ∀ id report now, op = .complete id report now → holds id report)
    (hreported : s.Reported holds) : t.Reported holds := by
  induction changes with
  | none s => exact hreported
  | more change _ ih =>
    exact ih (change.sound h) ((change.effect h.coherent).reported h.coherent hcall hreported)

end Reported

/-! ## Accepted completions -/

namespace Schedule

variable {s : Schedule} {id : AttemptId} {report : Report} {now : Instant}

/-- An accepted completion announces the end of its attempt and then launches
only. -/
theorem Accepted.transitions {result : Schedule × Step} (h : s.Sound)
    (accepted : Accepted id report now s result) :
    ∃ launches, result.2.transitions = Transition.closing id report :: launches ∧
      ∀ transition ∈ launches, transition.isLaunch = true := by
  obtain @⟨first, rest, _, _, more, change, closes, launches, _⟩ := accepted
  -- Only the effects that close a run begin with a closing transition.
  have hmore : ∀ transition ∈ more, transition.isLaunch = true := by
    cases change.effect h.coherent with
    | launched _ _ _ _ _ _ transitions _ =>
      rw [closes] at transitions
      cases transitions
    | closed _ _ _ _ _ _ _ _ _ _ _ _ transitions _ =>
      rw [closes] at transitions
      simp [(List.cons.inj transitions).2]
    | retried _ _ _ _ _ _ _ _ _ transitions _ =>
      rw [closes] at transitions
      simp [(List.cons.inj transitions).2]
    | none _ _ transitions _ =>
      rw [closes] at transitions
      cases transitions
  refine ⟨more ++ rest.transitions, ?_, ?_⟩
  · rw [Step.andThen_transitions, closes, List.cons_append]
  · intro transition hmem
    rcases List.mem_append.mp hmem with hmem | hmem
    · exact hmore transition hmem
    · exact launches.closes_nothing (change.sound h) (fun _ _ _ hcall => by cases hcall)
        transition hmem

theorem Accepted.closings {result : Schedule × Step} (h : s.Sound)
    (accepted : Accepted id report now s result) :
    result.2.closings = [Transition.closing id report] := by
  obtain ⟨launches, htransitions, hlaunches⟩ := accepted.transitions h
  have hnone : launches.filter (fun transition => !transition.isLaunch) = [] := by
    simpa using hlaunches
  rw [Step.closings, htransitions, List.filter_cons_of_pos (by simp), hnone]

/-- After the decision an accepted completion does nothing else. -/
theorem complete_decided (h : s.Sound) (hid : id ∈ s.inFlight) (decided : s.isDecided = true) :
    (s.complete id report now).2.transitions = [Transition.closing id report] := by
  obtain ⟨life, hmem, hname, hopen⟩ := mem_inFlight.mp hid
  obtain ⟨process, index⟩ := id
  subst hname
  rw [complete_late h.coherent.distinct hmem hopen (Option.isSome_iff_ne_none.mp decided)]

theorem apply_closings_eq_nil (h : s.Sound) {op : Operation}
    (hop : ∀ id report now, op ≠ .complete id report now) : (s.apply op).2.closings = [] := by
  have hlaunches := (apply_changes h op).closes_nothing h hop
  simpa [Step.closings] using hlaunches

end Schedule

/-! ## The outset -/

namespace Schedule

variable {task : TaskSpec} {options : SchedulerOptions}

theorem initial_inFlight : (initial task options).inFlight = [] := by
  rw [inFlight_eq, List.flatMap_eq_nil_iff]
  intro life hmem
  have hlife := (initial_coherent task options).lifecycles life hmem
  exact Lifecycle.openIds_eq_nil (hlife.idle_of_pending (initial_pending hmem).1)

theorem initial_reported (holds : AttemptId → Report → Prop) :
    (initial task options).Reported holds := by
  intro life hmem run hrun
  rw [(initial_pending hmem).2.1] at hrun
  cases hrun

end Schedule

end Overseer
