import Overseer.Proofs.Schedule.Conservation

/-!
# The concurrency limit

A task that limits how many processes may run at a time never runs more of them, and
never has more attempts in flight. The limit holds after every operation, and it holds
in the middle of one as well: `Schedule.passing` makes the transitions that a step
announces one by one, each by what the lifecycle of its process does, and arrives at
what the operation leaves. A step closes at most one run, and does so first; after that
it only launches, so that the processes running on the way are never more than those
running before the step or after it.

Results:
1. `Change.passing`, `apply_passing`: the transitions of a step lead to where it leads.
2. `apply_closes_first`: all transitions of a step but the first are launches.
3. `countP_passing_le`: launches take no process out of the count.
4. `Reachable.concurrency_bounded`: the limit, between operations and within them.
-/

namespace Overseer

namespace Lifecycle

/-- The lifecycle after a completion that comes before or after the decision. -/
def afterCompletion (life : Lifecycle) (decided : Bool) (index : UInt32) (report : Report)
    (policy : MinDurationPolicy) : Lifecycle :=
  if decided then (life.completeLate index report).1
  else (life.complete index report policy).1

theorem launch_cases (life : Lifecycle) (now : Instant) :
    (life.launch now).1 = life ∨ (life.launch now).1 = life.opened now := by
  cases hterminal : life.state.isTerminal with
  | true => exact Or.inl (by simp [launch, hterminal])
  | false =>
    cases hopen : life.openAttempt? with
    | some index => exact Or.inl (by simp [launch, hterminal, hopen])
    | none => exact Or.inr (by simp [launch_eq_ok now hterminal hopen])

end Lifecycle

namespace Schedule

/-- One transition that an operation announces, made on the lifecycle that it names. -/
def undergo (op : Operation) (schedule : Schedule) (transition : Transition) : Schedule :=
  match schedule.lifecycle? transition.id.process with
  | none => schedule
  | some life =>
    if transition.isLaunch then schedule.put (life.launch transition.timestamp).1
    else
      match op with
      | .complete id report _ =>
        schedule.put (life.afterCompletion schedule.isDecided id.index report
          schedule.options.minDuration)
      | .start _ | .cancel => schedule

/-- The schedule once the given transitions of an operation are made one by one. -/
def passing (schedule : Schedule) (op : Operation) (transitions : List Transition) : Schedule :=
  transitions.foldl (undergo op) schedule

variable {s t u v : Schedule} {op : Operation} {life : Lifecycle} {index : UInt32}
  {report : Report} {now : Instant}

@[simp] theorem passing_nil (s : Schedule) (op : Operation) : s.passing op [] = s := rfl

theorem passing_cons (s : Schedule) (op : Operation) (transition : Transition)
    (rest : List Transition) :
    s.passing op (transition :: rest) = (s.undergo op transition).passing op rest := rfl

theorem passing_append (s : Schedule) (op : Operation) (first rest : List Transition) :
    s.passing op (first ++ rest) = (s.passing op first).passing op rest :=
  List.foldl_append

/-! ## One transition -/

theorem undergo_launch (hd : s.Distinct) (hmem : life ∈ s.lifecycles)
    (hlive : life.state.isTerminal = false) (hidle : life.openAttempt? = none) (now : Instant) :
    s.undergo op (Transition.launch life.nextId now) = s.put (life.opened now) := by
  have hfind : s.lifecycle? (Transition.launch life.nextId now).id.process = some life :=
    lifecycle?_self hd hmem
  simp only [undergo, hfind, Transition.isLaunch_launch, if_true,
    Lifecycle.launch_eq_ok _ hlive hidle]
  rfl

theorem undergo_closing (hd : s.Distinct) (hmem : life ∈ s.lifecycles) :
    s.undergo (.complete ⟨life.name, index⟩ report now)
        (Transition.closing ⟨life.name, index⟩ report) =
      s.put (life.afterCompletion s.isDecided index report s.options.minDuration) := by
  have hfind : s.lifecycle? (Transition.closing ⟨life.name, index⟩ report).id.process = some life :=
    lifecycle?_self hd hmem
  simp only [undergo, hfind, Transition.isLaunch_closing, Bool.false_eq_true, if_false]

/-- What a launch does depends on the lifecycles alone. -/
theorem undergo_congr (hlives : v.lifecycles = u.lifecycles) {transition : Transition}
    (hlaunch : transition.isLaunch = true) (op' : Operation) :
    (v.undergo op transition).lifecycles = (u.undergo op' transition).lifecycles := by
  have hfind : v.lifecycle? transition.id.process = u.lifecycle? transition.id.process := by
    rw [lifecycle?, lifecycle?, hlives]
  simp only [undergo, hfind, hlaunch, if_true]
  cases u.lifecycle? transition.id.process with
  | none => exact hlives
  | some life => simp only [put, hlives]

theorem passing_congr (hlives : v.lifecycles = u.lifecycles) {launches : List Transition}
    (hlaunches : ∀ transition ∈ launches, transition.isLaunch = true) (op' : Operation) :
    (v.passing op launches).lifecycles = (u.passing op' launches).lifecycles := by
  induction launches generalizing u v with
  | nil => exact hlives
  | cons transition rest ih =>
    obtain ⟨hfirst, hrest⟩ := List.forall_mem_cons.mp hlaunches
    exact ih (undergo_congr hlives hfirst op') hrest

end Schedule

/-! ## All transitions of a step -/

open Schedule in
/-- The transitions that a change announces lead to the lifecycles that it leaves. -/
theorem Change.passing {op : Operation} {s t : Schedule} {step : Step} (change : Change op s step t)
    (h : s.Coherent) : (s.passing op step.transitions).lifecycles = t.lifecycles := by
  have hd := h.distinct
  cases change with
  | launch now _ mem ready _ =>
    have hpending := ((isReady_iff s _).mp ready).1
    have hidle := (h.lifecycles _ mem).idle_of_pending hpending
    rw [passing_cons, undergo_launch hd mem (by rw [hpending]; rfl) hidle, passing_nil]
  | @succeed life index report now call undecided mem opened success =>
    subst call
    rw [passing_cons, undergo_closing hd mem, passing_nil]
    simp [Lifecycle.afterCompletion, isDecided, undecided,
      Lifecycle.complete_eq_ok_of_success s.options.minDuration opened success]
  | @retry life index report now call undecided mem opened failure left _ =>
    subst call
    have hlife := h.lifecycles life mem
    have hclosed : life.afterCompletion s.isDecided index report s.options.minDuration =
        life.tolerated report := by
      simp [Lifecycle.afterCompletion, isDecided, undecided,
        Lifecycle.complete_eq_ok_of_retry s.options.minDuration opened failure left]
    have hrunning := hlife.running_of_openAttempt? opened
    -- The process is running with no run open: it can be launched again.
    have hput : (s.put (life.tolerated report)).Distinct := hd.put mem rfl
    rw [passing_cons, undergo_closing hd mem, hclosed, passing_cons,
      undergo_launch hput (mem_put_self hd mem rfl)
        (by rw [Lifecycle.tolerated_state, hrunning]; rfl)
        (hlife.openAttempt?_of_closed opened rfl), passing_nil]
    rfl
  | @overrun life index report now call undecided mem opened failure left _ =>
    subst call
    change (s.passing _ [Transition.closing ⟨life.name, index⟩ report]).lifecycles = _
    rw [passing_cons, undergo_closing hd mem, passing_nil]
    simp [Lifecycle.afterCompletion, isDecided, undecided,
      Lifecycle.complete_eq_ok_of_retry s.options.minDuration opened failure left]
  | @tolerate life index report now call undecided mem opened failure last _ _
  | @exhaust life index report now call undecided mem opened failure last _ _
  | @fatal life index report now call undecided mem opened failure last _ =>
    subst call
    change (s.passing _ [Transition.closing ⟨life.name, index⟩ report]).lifecycles = _
    rw [passing_cons, undergo_closing hd mem, passing_nil]
    simp [Lifecycle.afterCompletion, isDecided, undecided,
      Lifecycle.complete_eq_ok_of_last s.options.minDuration opened failure last]
  | @late life index report now call decided mem opened =>
    subst call
    have hdecided : s.isDecided = true := Option.isSome_iff_ne_none.mpr decided
    rw [passing_cons, undergo_closing hd mem, passing_nil]
    simp [Lifecycle.afterCompletion, hdecided, Lifecycle.completeLate_eq_ok report opened]
  | cancel _ _ | conclude _ _ => rfl

open Schedule in
theorem Changes.passing {now : Instant} {s t v : Schedule} {step : Step}
    (launches : Changes (.start now) s step t) (h : s.Sound) (op : Operation)
    (hlives : v.lifecycles = s.lifecycles) :
    (v.passing op step.transitions).lifecycles = t.lifecycles := by
  induction launches generalizing v with
  | none s => exact hlives
  | more change _ ih =>
    rw [Step.andThen_transitions, passing_append]
    refine ih (change.sound h) ?_
    have honly := (Changes.one change).closes_nothing h fun _ _ _ hcall => by cases hcall
    exact (passing_congr hlives honly (.start now)).trans (change.passing h.coherent)

namespace Schedule

variable {s u : Schedule} {op : Operation} {life : Lifecycle} {now : Instant}

theorem apply_passing (h : s.Sound) (op : Operation) :
    (s.passing op (s.apply op).2.transitions).lifecycles = (s.apply op).1.lifecycles := by
  obtain ⟨now, t, first, rest, hfirst, launches, hstep⟩ := apply_split h op
  rw [hstep, Step.andThen_transitions, passing_append]
  rcases hfirst with ⟨rfl, rfl⟩ | change
  · exact launches.passing h op rfl
  · exact launches.passing (change.sound h) op (change.passing h.coherent)

/-- A step closes a run before it launches anything. -/
theorem apply_closes_first (h : s.Sound) {first : Transition} {rest : List Transition}
    (htransitions : (s.apply op).2.transitions = first :: rest) :
    ∀ transition ∈ rest, transition.isLaunch = true := by
  have hlaunches (hop : ∀ id report now, op ≠ .complete id report now) :
      ∀ transition ∈ rest, transition.isLaunch = true := by
    have hall := (apply_changes h op).closes_nothing h hop
    rw [htransitions] at hall
    exact (List.forall_mem_cons.mp hall).2
  cases op with
  | start now => exact hlaunches fun _ _ _ hcall => by cases hcall
  | cancel => exact hlaunches fun _ _ _ hcall => by cases hcall
  | complete id report now =>
    by_cases hid : id ∈ s.inFlight
    · obtain ⟨launches, hsplit, hall⟩ := (complete_inFlight h hid report now).transitions h
      rw [apply, hsplit] at htransitions
      exact (List.cons.inj htransitions).2 ▸ hall
    · rw [apply, complete_ignored h.coherent.distinct hid] at htransitions
      cases htransitions

/-! ## Counting on the way -/

theorem names_put (s : Schedule) (new : Lifecycle) :
    (s.put new).lifecycles.map (·.name) = s.lifecycles.map (·.name) := by
  rw [put, List.map_map]
  refine List.map_congr_left fun old _ => ?_
  rw [Function.comp_apply]
  split
  · next hname => exact hname.symm
  · rfl

theorem Distinct.undergo (hd : s.Distinct) (op : Operation) (transition : Transition) :
    (s.undergo op transition).Distinct := by
  have hput (new : Lifecycle) : (s.put new).Distinct := by
    rw [Distinct, names_put]
    exact hd
  unfold Schedule.undergo
  split
  · exact hd
  · split
    · exact hput _
    · split
      · exact hput _
      · exact hd
      · exact hd

theorem Distinct.passing (hd : s.Distinct) (op : Operation) (transitions : List Transition) :
    (s.passing op transitions).Distinct := by
  induction transitions generalizing s with
  | nil => exact hd
  | cons transition rest ih => exact ih (hd.undergo op transition)

section Counting

variable {counted : Lifecycle → Bool}
  (hopened : ∀ (life : Lifecycle) (now : Instant), counted (life.opened now) = true)

include hopened

theorem countP_undergo_le (hd : s.Distinct) {transition : Transition}
    (hlaunch : transition.isLaunch = true) (op : Operation) :
    s.lifecycles.countP counted ≤ (s.undergo op transition).lifecycles.countP counted := by
  cases hfind : s.lifecycle? transition.id.process with
  | none => simp only [undergo, hfind, le_refl]
  | some life =>
    obtain ⟨hmem, _⟩ := (lifecycle?_eq_some hd).mp hfind
    simp only [undergo, hfind, hlaunch, if_true]
    rcases life.launch_cases transition.timestamp with hsame | hnew
    · have hcount := put_countP hd hmem (rfl : life.name = life.name) counted
      rw [hsame]
      omega
    · have hname : (life.opened transition.timestamp).name = life.name := rfl
      have hcount := put_countP hd hmem hname counted
      rw [hopened, if_pos rfl] at hcount
      rw [hnew]
      split at hcount <;> omega

/-- Launches take no process out of a count that the launched processes are in. -/
theorem countP_passing_le (hd : s.Distinct) {launches : List Transition}
    (hlaunches : ∀ transition ∈ launches, transition.isLaunch = true) (op : Operation) :
    s.lifecycles.countP counted ≤ (s.passing op launches).lifecycles.countP counted := by
  induction launches generalizing s with
  | nil => exact Nat.le_refl _
  | cons transition rest ih =>
    obtain ⟨hfirst, hrest⟩ := List.forall_mem_cons.mp hlaunches
    exact (countP_undergo_le hopened hd hfirst op).trans (ih (hd.undergo op transition) hrest)

/-- On its way a step counts no more processes than before it or after it. -/
theorem countP_passing_within (h : s.Sound) {made : List Transition}
    (hmade : made <+: (s.apply op).2.transitions) {bound : Nat}
    (hbefore : s.lifecycles.countP counted ≤ bound)
    (hafter : (s.apply op).1.lifecycles.countP counted ≤ bound) :
    (s.passing op made).lifecycles.countP counted ≤ bound := by
  obtain ⟨rest, hrest⟩ := hmade
  cases made with
  | nil => exact hbefore
  | cons first more =>
    have hlaunches : ∀ transition ∈ rest, transition.isLaunch = true := fun transition hmem =>
      apply_closes_first h hrest.symm transition (List.mem_append_right _ hmem)
    calc (s.passing op (first :: more)).lifecycles.countP counted
        ≤ ((s.passing op (first :: more)).passing op rest).lifecycles.countP counted :=
          countP_passing_le hopened (h.coherent.distinct.passing op _) hlaunches op
      _ = (s.apply op).1.lifecycles.countP counted := by
          rw [← passing_append, hrest, apply_passing h op]
      _ ≤ bound := hafter

end Counting

theorem length_inFlight (s : Schedule) :
    s.inFlight.length = s.lifecycles.countP (·.openAttempt?.isSome) := by
  rw [inFlight, List.length_filterMap_eq_countP]
  simp

/-- What is in flight belongs to a running process. -/
theorem length_inFlight_le_running (h : s.Coherent) : s.inFlight.length ≤ s.runningCount := by
  rw [length_inFlight, runningCount]
  refine List.countP_mono_left fun life hmem hopen => ?_
  obtain ⟨index, hindex⟩ := Option.isSome_iff_exists.mp hopen
  exact decide_eq_true ((h.lifecycles life hmem).running_of_openAttempt? hindex)

/-! ## The limit -/

variable {task : TaskSpec} {options : SchedulerOptions}

/-- If a task limits its concurrency, then whatever was done with it at most that many
processes are running, and at most that many attempts are in flight. The same holds
after each of the transitions that an operation announces, made one by one, and made
all together they leave the processes as the operation does. -/
theorem Reachable.concurrency_bounded (h : Reachable task options s)
    (limited : task.maxConcurrency ≠ 0) :
    s.runningCount ≤ task.maxConcurrency.toNat ∧
    s.inFlight.length ≤ task.maxConcurrency.toNat ∧
    ∀ op,
      (s.passing op (s.apply op).2.transitions).lifecycles = (s.apply op).1.lifecycles ∧
      ∀ made, made <+: (s.apply op).2.transitions →
        (s.passing op made).runningCount ≤ task.maxConcurrency.toNat ∧
        (s.passing op made).inFlight.length ≤ task.maxConcurrency.toNat := by
  have hrunning {t : Schedule} (ht : Reachable task options t) :
      t.runningCount ≤ task.maxConcurrency.toNat := by
    have hwithin := ht.withinLimit
    rw [WithinLimit, ht.task_eq] at hwithin
    exact hwithin limited
  have hflight {t : Schedule} (ht : Reachable task options t) :
      t.lifecycles.countP (·.openAttempt?.isSome) ≤ task.maxConcurrency.toNat := by
    rw [← length_inFlight]
    exact (length_inFlight_le_running ht.sound.coherent).trans (hrunning ht)
  refine ⟨hrunning h, length_inFlight s ▸ hflight h, fun op => ⟨apply_passing h.sound op, ?_⟩⟩
  intro made hmade
  have hnext : Reachable task options (s.apply op).1 := h.after [op]
  refine ⟨?_, ?_⟩
  · exact countP_passing_within (fun _ _ => rfl) h.sound hmade (hrunning h) (hrunning hnext)
  · rw [length_inFlight]
    refine countP_passing_within (fun life now => ?_) h.sound hmade (hflight h) (hflight hnext)
    rw [Lifecycle.openAttempt?_opened]
    rfl

/-- `first` has the one slot, fails and is tried again: between the two transitions of
that step it goes on running, with nothing in flight. -/
theorem Reachable.concurrency_bounded_unordered :
    let s := (initial .unordered {}).after [.start ⟨0⟩]
    let failure : Report := ⟨.noExitCode, ⟨0⟩, ⟨1⟩⟩
    let retry : Operation := .complete ⟨"first", 0⟩ failure ⟨1⟩
    let closing := Transition.closing ⟨"first", 0⟩ failure
    Reachable .unordered {} s ∧ TaskSpec.unordered.maxConcurrency ≠ 0 ∧
      (s.apply retry).2.transitions = [closing, Transition.launch ⟨"first", 1⟩ ⟨1⟩] ∧
      (s.runningCount ≤ 1 ∧ s.inFlight = [⟨"first", 0⟩] ∧ s.inFlight.length ≤ 1) ∧
      ((s.passing retry [closing]).runningCount ≤ 1 ∧
        (s.passing retry [closing]).stateOf? "first" = some .running ∧
        (s.passing retry [closing]).inFlight = [] ∧
        (s.passing retry [closing]).inFlight.length ≤ 1) ∧
      (s.passing retry (s.apply retry).2.transitions).lifecycles =
        (s.apply retry).1.lifecycles := by
  intro s failure retry closing
  have hs : Reachable .unordered {} s := ⟨_, rfl⟩
  have limited : TaskSpec.unordered.maxConcurrency ≠ 0 := by decide
  have htransitions :
      (s.apply retry).2.transitions = [closing, Transition.launch ⟨"first", 1⟩ ⟨1⟩] := by
    decide
  obtain ⟨hrunning, hflight, hall⟩ := hs.concurrency_bounded limited
  obtain ⟨hends, hway⟩ := hall retry
  obtain ⟨hcount, hopen⟩ := hway [closing] (htransitions ▸ List.prefix_append [closing] _)
  exact ⟨hs, limited, htransitions, ⟨hrunning, by decide, hflight⟩,
    ⟨hcount, by decide, by decide, hopen⟩, hends⟩

end Schedule

end Overseer
