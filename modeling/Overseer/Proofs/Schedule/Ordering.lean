import Overseer.Proofs.Schedule.Attempts

/-!
# Launches respect the constraints

A process is launched only after all its predecessors have succeeded. The schedule
asks its progress and not the lifecycles, so two things are carried along a run:
what the progress calls succeeded is succeeded and was announced, and nothing was
launched before its predecessors were noted.

Results:
1. `Coherent.precedes_succeeded`: the predecessors of a launched process have
   succeeded, however far away they are.
2. `Changes.chronicle`: what the announced transitions say about the order.
3. `launches_follow_constraints`: both for every run, and the order of the first
   launches is a linear extension of the constraints.
-/

namespace Overseer

/-! ## Lists in order -/

/-- Each element of a list stands in a relation to the part before it. -/
def Throughout {α : Type} (P : List α → α → Prop) (l : List α) : Prop :=
  ∀ before x after, l = before ++ x :: after → P before x

theorem Throughout.nil {α : Type} (P : List α → α → Prop) : Throughout P [] := by
  intro before x after h
  cases before <;> cases h

theorem Throughout.snoc {α : Type} {P : List α → α → Prop} {l : List α} {x : α}
    (h : Throughout P l) (hx : P l x) : Throughout P (l ++ [x]) := by
  intro before y after hsplit
  rcases List.eq_nil_or_concat after with rfl | ⟨front, last, rfl⟩
  · obtain ⟨rfl, hlast⟩ := List.append_inj' hsplit rfl
    rw [← List.singleton_inj.mp hlast]
    exact hx
  · rw [List.concat_eq_append, ← List.cons_append, ← List.append_assoc] at hsplit
    exact h before y front (List.append_inj' hsplit rfl).1

/-! ## Transitions -/

/-- The transition announces the success of `p`. -/
def Transition.Succeeds (transition : Transition) (p : ProcessName) : Prop :=
  transition.id.process = p ∧ transition.oldState = .running ∧ transition.newState = .success

/-- The transition announces the first launch of `p`. -/
def Transition.Begins (transition : Transition) (p : ProcessName) : Prop :=
  transition.oldState = .pending ∧ transition.id = ⟨p, 0⟩

instance (transition : Transition) (p : ProcessName) : Decidable (transition.Begins p) :=
  inferInstanceAs (Decidable (_ ∧ _))

/-- The processes in the order of their first launches. -/
def firstLaunches (trace : List Transition) : List ProcessName :=
  (trace.filter fun transition => transition.Begins transition.id.process).map (·.id.process)

/-- What the transitions before one must contain: for a launch the successes of
all predecessors, for the end of a run the first launch of its process. -/
def Due (task : TaskSpec) (before : List Transition) (transition : Transition) : Prop :=
  (transition.oldState = .pending → ∀ p, task.Precedes p transition.id.process →
    ∃ u ∈ before, u.Succeeds p) ∧
  (transition.oldState = .running → ∃ u ∈ before, u.Begins transition.id.process)

theorem Due.launch {task : TaskSpec} {before : List Transition} (id : AttemptId) (now : Instant)
    (h : ∀ p, task.Precedes p id.process → ∃ u ∈ before, u.Succeeds p) :
    Due task before (Transition.launch id now) := by
  refine ⟨fun _ => h, fun hrunning => ?_⟩
  cases hrunning

theorem Due.closing {task : TaskSpec} {before : List Transition} (id : AttemptId)
    (report : Report) (h : ∃ u ∈ before, u.Begins id.process) :
    Due task before (Transition.closing id report) := by
  refine ⟨fun hpending => ?_, fun _ => h⟩
  cases hpending

/-- No name stands before one of its predecessors, and none occurs twice. -/
structure TaskSpec.LinearExtension (task : TaskSpec) (names : List ProcessName) : Prop where
  nodup : names.Nodup
  ordered : Throughout (fun before q => ∀ p, task.Precedes p q → p ∈ before) names

namespace Schedule

variable {s : Schedule} {life : Lifecycle}

/-! ## Predecessors -/

/-- If the predecessors of `q` have succeeded, so have those further away. -/
theorem Coherent.precedes_succeeded (h : s.Coherent) {q : ProcessName}
    (hq : ∀ p, s.task.Requires p q → p ∈ s.progress.succeeded) {p : ProcessName}
    (hp : s.task.Precedes p q) : p ∈ s.progress.succeeded := by
  induction hp using Relation.TransGen.head_induction_on with
  | single hrequires => exact hq _ hrequires
  | head hrequires _ ih =>
    obtain ⟨life, hmem, rfl, hstate⟩ := h.succeeded _ ih
    refine h.ordered life hmem ?_ _ hrequires
    intro hnil
    rw [(h.lifecycles life hmem).pending_iff.mpr hnil] at hstate
    cases hstate

theorem Coherent.launched_precedes (h : s.Coherent) (hmem : life ∈ s.lifecycles)
    (hruns : life.runs ≠ []) {p : ProcessName} (hp : s.task.Precedes p life.name) :
    p ∈ s.progress.succeeded :=
  h.precedes_succeeded (h.ordered life hmem hruns) hp

/-! ## The chronicle -/

/-- What holds between a schedule and the transitions announced so far. -/
structure Chronicle (trace : List Transition) (schedule : Schedule) : Prop where
  noted : ∀ p ∈ schedule.progress.succeeded, ∃ u ∈ trace, u.Succeeds p
  begun : ∀ life ∈ schedule.lifecycles, life.runs ≠ [] → ∃ u ∈ trace, u.Begins life.name
  due : Throughout (Due schedule.task) trace

end Schedule

open Schedule

/-- One more transition at the end keeps what was found in the trace. -/
theorem exists_mem_append {α : Type} {P : α → Prop} {l : List α} (h : ∃ u ∈ l, P u) (m : List α) :
    ∃ u ∈ l ++ m, P u := by
  obtain ⟨u, hu, hP⟩ := h
  exact ⟨u, List.mem_append_left _ hu, hP⟩

theorem Effect.chronicle {op : Operation} {s t : Schedule} {step : Step} {trace : List Transition}
    (effect : Effect op s step t) (h : s.Coherent) (htask : t.task = s.task)
    (hc : Chronicle trace s) : Chronicle (trace ++ step.transitions) t := by
  cases effect with
  | launched life now mem ready lives succeeded transitions _ =>
    obtain ⟨_, heligible, _⟩ := (isReady_iff s life).mp ready
    rw [transitions]
    refine ⟨?_, ?_, ?_⟩
    · intro p hp
      rw [succeeded] at hp
      exact exists_mem_append (hc.noted p hp) _
    · intro other hother hruns
      rw [lives] at hother
      rcases of_mem_put hother h.distinct mem rfl with rfl | ⟨hother, _⟩
      · exact ⟨_, List.mem_append_right _ List.mem_cons_self, rfl, rfl⟩
      · exact exists_mem_append (hc.begun other hother hruns) _
    · rw [htask]
      refine hc.due.snoc (Due.launch ⟨life.name, 0⟩ now fun p hp => ?_)
      exact hc.noted p (h.precedes_succeeded ((eligible_iff _ _).mp heligible).2 hp)
  | closed life new index report now _ mem opened spec runs lives succeeded transitions _ =>
    have hname := Lifecycle.name_eq_of_spec spec
    have hlaunched := Lifecycle.runs_ne_nil_of_openAttempt? opened
    rw [transitions]
    refine ⟨?_, ?_, ?_⟩
    · intro p hp
      rcases succeeded p hp with hp | ⟨rfl, hsuccess⟩
      · exact exists_mem_append (hc.noted p hp) _
      · refine ⟨_, List.mem_append_right _ List.mem_cons_self, rfl, rfl, ?_⟩
        exact Outcome.runState_eq_success.mpr hsuccess
    · intro other hother hruns
      rw [lives] at hother
      rcases of_mem_put hother h.distinct mem hname with rfl | ⟨hother, _⟩
      · rw [hname]
        exact exists_mem_append (hc.begun life mem hlaunched) _
      · exact exists_mem_append (hc.begun other hother hruns) _
    · rw [htask]
      exact hc.due.snoc (Due.closing ⟨life.name, index⟩ report (hc.begun life mem hlaunched))
  | retried life index report now _ mem opened lives succeeded transitions _ =>
    have hlaunched := Lifecycle.runs_ne_nil_of_openAttempt? opened
    rw [transitions, List.append_cons]
    refine ⟨?_, ?_, ?_⟩
    · intro p hp
      rw [succeeded] at hp
      exact exists_mem_append (exists_mem_append (hc.noted p hp) _) _
    · intro other hother hruns
      rw [lives] at hother
      rcases of_mem_put hother h.distinct mem rfl with rfl | ⟨hother, _⟩
      · exact exists_mem_append (exists_mem_append (hc.begun life mem hlaunched) _) _
      · exact exists_mem_append (exists_mem_append (hc.begun other hother hruns) _) _
    · rw [htask]
      have hclosing := hc.due.snoc
        (Due.closing ⟨life.name, index⟩ report (hc.begun life mem hlaunched))
      refine hclosing.snoc (Due.launch ⟨life.name, index + 1⟩ now fun p hp => ?_)
      exact exists_mem_append (hc.noted p (h.launched_precedes mem hlaunched hp)) _
  | none lives succeeded transitions _ =>
    rw [transitions, List.append_nil]
    exact ⟨succeeded ▸ hc.noted, lives ▸ hc.begun, htask ▸ hc.due⟩

theorem Changes.chronicle {op : Operation} {s t : Schedule} {step : Step}
    {trace : List Transition} (changes : Changes op s step t) (h : s.Sound)
    (hc : Chronicle trace s) : Chronicle (trace ++ step.transitions) t := by
  induction changes generalizing trace with
  | none s => simpa using hc
  | more change _ ih =>
    rw [Step.andThen_transitions, ← List.append_assoc]
    exact ih (change.sound h) ((change.effect h.coherent).chronicle h.coherent change.task hc)

/-! ## First launches -/

theorem mem_firstLaunches {trace : List Transition} {p : ProcessName} :
    p ∈ firstLaunches trace ↔ ∃ u ∈ trace, u.Begins p := by
  simp only [firstLaunches, List.mem_map, List.mem_filter, decide_eq_true_eq]
  constructor
  · rintro ⟨u, ⟨hu, hbegins⟩, rfl⟩
    exact ⟨u, hu, hbegins⟩
  · rintro ⟨u, hu, hpending, hid⟩
    have hprocess : u.id.process = p := by rw [hid]
    exact ⟨u, ⟨hu, hpending, by rw [hprocess, hid]⟩, hprocess⟩

/-- A place in the first launches is a place in the trace. -/
theorem firstLaunches_split {trace : List Transition} {before after : List ProcessName}
    {q : ProcessName} (h : firstLaunches trace = before ++ q :: after) :
    ∃ front u rest, trace = front ++ u :: rest ∧ firstLaunches front = before ∧ u.Begins q := by
  obtain ⟨first, second, hfilter, hbefore, hsecond⟩ := List.map_eq_append_iff.mp h
  obtain ⟨u, tail, rfl, hq, _⟩ := List.map_eq_cons_iff.mp hsecond
  obtain ⟨left, right, rfl, hleft, hright⟩ := List.filter_eq_append_iff.mp hfilter
  obtain ⟨skipped, rest, rfl, hskipped, hbegins, _⟩ := List.filter_eq_cons_iff.mp hright
  refine ⟨left ++ skipped, u, rest, by rw [List.append_assoc], ?_, ?_⟩
  · have hnone : skipped.filter (fun v => decide (v.Begins v.id.process)) = [] :=
      List.filter_eq_nil_iff.mpr hskipped
    rw [firstLaunches, List.filter_append, hnone, List.append_nil, hleft, hbefore]
  · rw [← hq]
    exact of_decide_eq_true hbegins

/-- The trace lists the first launches in an order that respects the constraints. -/
theorem firstLaunches_ordered {task : TaskSpec} {trace : List Transition}
    (h : Throughout (Due task) trace) :
    Throughout (fun before q => ∀ p, task.Precedes p q → p ∈ before) (firstLaunches trace) := by
  intro before q after hsplit p hp
  obtain ⟨front, u, rest, rfl, rfl, hpending, hid⟩ := firstLaunches_split hsplit
  have hprocess : u.id.process = q := by rw [hid]
  -- Before the launch stands the success of `p`, and before that the first launch of `p`.
  obtain ⟨v, hv, hvp, hvrunning, _⟩ := (h front u rest rfl).1 hpending p (hprocess.symm ▸ hp)
  obtain ⟨earlier, later, rfl⟩ := List.append_of_mem hv
  have hdue := h earlier v (later ++ u :: rest) (by simp)
  obtain ⟨w, hw, hbegins⟩ := hdue.2 hvrunning
  rw [mem_firstLaunches]
  exact ⟨w, List.mem_append_left _ hw, hvp ▸ hbegins⟩

theorem firstLaunches_nodup {trace : List Transition}
    (h : ((trace.filter (·.isLaunch)).map (·.id)).Nodup) : (firstLaunches trace).Nodup := by
  have hsub : ((trace.filter fun u => u.Begins u.id.process).map (·.id)).Sublist
      ((trace.filter (·.isLaunch)).map (·.id)) := by
    refine (List.monotone_filter_right trace fun u hu => ?_).map _
    exact decide_eq_true (of_decide_eq_true hu).1
  have hprocesses : firstLaunches trace =
      ((trace.filter fun u => u.Begins u.id.process).map (·.id)).map (·.process) := by
    rw [List.map_map]
    rfl
  rw [hprocesses]
  refine List.Nodup.map_on ?_ (hsub.nodup h)
  have hzero : ∀ id ∈ (trace.filter fun u => u.Begins u.id.process).map (·.id),
      id = ⟨id.process, 0⟩ := by
    intro id hid
    obtain ⟨u, hu, rfl⟩ := List.mem_map.mp hid
    exact (of_decide_eq_true (List.mem_filter.mp hu).2).2
  intro a ha b hb hab
  rw [hzero a ha, hzero b hb, hab]

/-! ## Runs -/

namespace Schedule

variable {s : Schedule}

theorem initial_chronicle (task : TaskSpec) (options : SchedulerOptions) :
    Chronicle [] (initial task options) where
  noted := by simp [initial]
  begun := by
    intro life hmem hruns
    exact absurd (initial_pending hmem).2.1 hruns
  due := Throughout.nil _

theorem after_chronicle (h : s.Sound) {trace : List Transition} (hc : Chronicle trace s)
    (ops : List Operation) : Chronicle (trace ++ s.trace ops) (s.after ops) := by
  induction ops generalizing s trace with
  | nil => simpa using hc
  | cons op rest ih =>
    rw [trace_cons, ← List.append_assoc]
    exact ih (apply_sound h op) ((apply_changes h op).chronicle h hc)

/-- The launches in the trace are those of the recorded runs. -/
theorem trace_launches (h : s.Sound) (ops : List Operation) :
    (s.after ops).runIds.Perm
      (s.runIds ++ ((s.trace ops).filter (·.isLaunch)).map (·.id)) := by
  induction ops generalizing s with
  | nil => simp
  | cons op rest ih =>
    have changes := apply_changes h op
    rw [trace_cons, List.filter_append, List.map_append, changes.launchedIds h,
      ← List.append_assoc]
    exact (ih (apply_sound h op)).trans ((changes.runIds h).append_right _)

/-- Whatever operations are made on a schedule of the task, a process that has a
run has only succeeded processes before it, however far; the success of each of
them is announced before its first launch; and the first launches, one for each
such process, stand in an order that extends the constraints. -/
theorem launches_follow_constraints (task : TaskSpec) (options : SchedulerOptions)
    (ops : List Operation) :
    let s := (initial task options).after ops
    let trace := (initial task options).trace ops
    (∀ life ∈ s.lifecycles, life.runs ≠ [] → ∀ p, task.Precedes p life.name →
      s.stateOf? p = some .success) ∧
    (∀ before q now after, trace = before ++ Transition.launch ⟨q, 0⟩ now :: after →
      ∀ p, task.Precedes p q → ∃ u ∈ before, u.Succeeds p) ∧
    task.LinearExtension (firstLaunches trace) ∧
    ∀ life ∈ s.lifecycles, life.runs ≠ [] → life.name ∈ firstLaunches trace := by
  intro s trace
  have hinitial := initial_sound task options
  have hsound : s.Sound := after_sound hinitial ops
  have htask : s.task = task := after_task hinitial ops
  have hchronicle : Chronicle trace s :=
    after_chronicle hinitial (initial_chronicle task options) ops
  have hdue : Throughout (Due task) trace := htask ▸ hchronicle.due
  refine ⟨?_, ?_, ⟨?_, firstLaunches_ordered hdue⟩, ?_⟩
  · intro life hmem hruns p hp
    refine hsound.coherent.stateOf?_of_succeeded (hsound.coherent.launched_precedes hmem hruns ?_)
    rw [htask]
    exact hp
  · intro before q now after hsplit p hp
    exact (hdue before _ after hsplit).1 rfl p hp
  · have hperm := trace_launches hinitial ops
    rw [initial_runIds, List.nil_append] at hperm
    exact firstLaunches_nodup (hperm.nodup (runIds_nodup hsound.coherent))
  · intro life hmem hruns
    exact mem_firstLaunches.mpr (hchronicle.begun life hmem hruns)

end Schedule

end Overseer
