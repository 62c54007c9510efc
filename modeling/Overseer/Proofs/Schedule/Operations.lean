import Overseer.Proofs.Schedule.Coherence

/-!
# Operations as changes

Each operation on a sound schedule is a series of changes, announced in the order
in which they happen. What it leaves undecided it also leaves busy: everything
that is ready and fits has been launched, and something is running or may still
start.

Results:
1. `launchWhileFree_changes`: the launches of one step; which processes get a slot, in
   closed form.
2. `advance_changes`, `advance_launched`: the launches, and the look whether the task is done.
3. `complete_ignored`, `complete_followed`, `complete_inFlight`: a completion that
   names no attempt in flight changes nothing; any other closes its attempt and is
   followed up.
4. `apply_conducted`, `apply_changes`, `apply_split`, `apply_sound`: every operation.
-/

namespace Overseer

namespace Schedule

/-- The processes to launch: those that are ready, in declaration order, as many as the
concurrency limit leaves room for. -/
def nextLaunches (schedule : Schedule) : List ProcessName :=
  if schedule.task.maxConcurrency = 0 then schedule.readyNames
  else schedule.readyNames.take (schedule.task.maxConcurrency.toNat - schedule.runningCount)

/-- All that is ready and fits has been launched, and the task is not settled. -/
structure Busy (schedule : Schedule) : Prop where
  launched : schedule.nextLaunches = []
  outstanding : schedule.lifecycles.any schedule.isOutstanding = true

variable {s : Schedule} {life : Lifecycle} {op : Operation}

/-! ## Launches -/

theorem launch_eq (hd : s.Distinct) (hmem : life ∈ s.lifecycles)
    (hlive : life.state.isTerminal = false) (hidle : life.openAttempt? = none) (now : Instant)
    (index : UInt32) (delay : Span) :
    s.launch now index delay life.name =
      (s.put (life.opened now),
        { launched := [Attempt.ofSpec life.spec index delay]
          transitions := [Transition.launch life.nextId now] }) := by
  simp [launch, lifecycle?_self hd hmem, Lifecycle.launch_eq_ok now hlive hidle]

theorem mem_readyNames {p : ProcessName} :
    p ∈ s.readyNames ↔ ∃ life ∈ s.lifecycles, s.isReady life = true ∧ life.name = p := by
  simp [readyNames, and_assoc]

/-- Launching the first ready process leaves the others ready. -/
theorem readyNames_put_opened (hd : s.Distinct) (hmem : life ∈ s.lifecycles) {now : Instant}
    {more : List ProcessName} (hready : s.readyNames = life.name :: more)
    (hlife : s.isReady life = true) : (s.put (life.opened now)).readyNames = more := by
  have hname : (life.opened now).name = life.name := rfl
  obtain ⟨front, rest, hsplit, hput, hothers⟩ := put_split hd hmem hname
  -- Nothing before the process is ready, or it would be launched first.
  have hfront : front.filter s.isReady = [] := by
    rw [readyNames, hsplit, List.filter_append, List.filter_cons_of_pos hlife] at hready
    cases hfilter : front.filter s.isReady with
    | nil => rfl
    | cons first tail =>
      rw [hfilter, List.cons_append, List.map_cons] at hready
      have hfirst : first ∈ front :=
        List.mem_of_mem_filter (hfilter ▸ List.mem_cons_self : first ∈ front.filter s.isReady)
      exact absurd (List.cons.inj hready).1 (hothers first (List.mem_append_left _ hfirst))
  have hopened : s.isReady (life.opened now) = false := by simp [isReady]
  have hsame : (s.put (life.opened now)).isReady = s.isReady := rfl
  rw [readyNames, hsplit, List.filter_append, hfront, List.filter_cons_of_pos hlife,
    List.nil_append, List.map_cons] at hready
  rw [readyNames, hsame, hput, List.filter_append, hfront,
    List.filter_cons_of_neg (by simp [hopened]), List.nil_append]
  exact (List.cons.inj hready).2

theorem runningCount_put_opened (hd : s.Distinct) (hmem : life ∈ s.lifecycles) (now : Instant)
    (hpending : life.state = .pending) :
    (s.put (life.opened now)).runningCount = s.runningCount + 1 := by
  have hname : (life.opened now).name = life.name := rfl
  have hcount := put_countP hd hmem hname (fun l => l.state = .running)
  simpa [runningCount, hpending] using hcount

theorem isFull_eq_false {n : Nat} :
    s.isFull n = false ↔ s.task.maxConcurrency = 0 ∨ n < s.task.maxConcurrency.toNat := by
  rw [isFull, Bool.and_eq_false_iff]
  simp

theorem nextLaunches_eq_nil :
    s.nextLaunches = [] ↔ s.readyNames = [] ∨ s.isFull s.runningCount = true := by
  rw [nextLaunches]
  split
  · next hunlimited => simp [isFull, hunlimited]
  · next hlimit =>
    rw [List.take_eq_nil_iff, Nat.sub_eq_zero_iff_le, or_comm]
    simp [isFull, hlimit]

/-- With a free slot the first ready process is the next to be launched. The others follow
once it has taken its slot. -/
theorem nextLaunches_cons {t : Schedule} {p : ProcessName} (htask : t.task = s.task)
    (hnames : s.readyNames = p :: t.readyNames) (hcount : t.runningCount = s.runningCount + 1)
    (hfree : s.isFull s.runningCount = false) : s.nextLaunches = p :: t.nextLaunches := by
  rw [nextLaunches, nextLaunches, htask, hnames, hcount]
  split
  · rfl
  · next hlimit =>
    have hroom := (isFull_eq_false.mp hfree).resolve_left hlimit
    rw [show s.task.maxConcurrency.toNat - s.runningCount =
        s.task.maxConcurrency.toNat - (s.runningCount + 1) + 1 by omega, List.take_succ_cons]

/-- The first ready process is launched. It takes a slot and leaves the others ready. -/
theorem launch_ready (h : s.Sound) (undecided : s.decision = none) {p : ProcessName}
    {more : List ProcessName} (hnames : s.readyNames = p :: more)
    (hfree : s.isFull s.runningCount = false) (now : Instant) :
    ∃ life ∈ s.lifecycles, life.name = p ∧ s.isReady life = true ∧
      s.launch now 0 .zero p =
        (s.put (life.opened now),
          { launched := [Attempt.ofSpec life.spec 0 .zero]
            transitions := [Transition.launch life.nextId now] }) ∧
      Change (.start now) s
        { launched := [Attempt.ofSpec life.spec 0 .zero]
          transitions := [Transition.launch life.nextId now] } (s.put (life.opened now)) ∧
      (s.put (life.opened now)).readyNames = more ∧
      (s.put (life.opened now)).runningCount = s.runningCount + 1 := by
  have hd := h.coherent.distinct
  obtain ⟨life, hmem, hready, rfl⟩ := mem_readyNames.mp (hnames ▸ List.mem_cons_self : p ∈ _)
  have hpending := ((isReady_iff s life).mp hready).1
  have hlaunch := launch_eq hd hmem (by rw [hpending]; rfl)
    ((h.coherent.lifecycles life hmem).idle_of_pending hpending) now 0 .zero
  exact ⟨life, hmem, rfl, hready, hlaunch,
    .launch now undecided hmem hready (isFull_eq_false.mp hfree),
    readyNames_put_opened hd hmem hnames hready, runningCount_put_opened hd hmem now hpending⟩

/-- No launch of a ready process is refused, so the free slots go to the first ready ones. -/
theorem launchWhileFree_changes (now : Instant) {names : List ProcessName} (h : s.Sound)
    (undecided : s.decision = none) (hnames : s.readyNames = names) :
    let result := s.launchWhileFree now s.runningCount names
    Changes (.start now) s result.2 result.1 ∧ result.1.decision = none ∧
      result.1.nextLaunches = [] ∧
      result.2.launched.map (·.id) = s.nextLaunches.map (⟨·, 0⟩) := by
  -- Each launch leaves the other ready processes, and one slot fewer.
  induction names generalizing s with
  | nil =>
    have hnone : s.nextLaunches = [] := nextLaunches_eq_nil.mpr (Or.inl hnames)
    exact ⟨.none s, undecided, hnone, by rw [hnone]; rfl⟩
  | cons p more ih =>
    cases hfull : s.isFull s.runningCount with
    | true =>
      have hnone := nextLaunches_eq_nil.mpr (Or.inr hfull)
      simp only [launchWhileFree, hfull, if_true]
      exact ⟨.none s, undecided, hnone, by rw [hnone]; rfl⟩
    | false =>
      obtain ⟨life, _, rfl, _, hlaunch, change, hmore, hcount⟩ :=
        launch_ready h undecided hnames hfull now
      have hnext := nextLaunches_cons (put_task s _) (hnames.trans (by rw [hmore])) hcount hfull
      obtain ⟨changes, hfinal, hdone, hids⟩ := ih (change.sound h) undecided hmore
      rw [hcount] at changes hfinal hdone hids
      simp only [launchWhileFree, hfull, hlaunch, Bool.false_eq_true, if_false, hnext]
      exact ⟨.more change changes, hfinal, hdone, congrArg (_ :: ·) hids⟩

theorem launchWhileFree_of_none (now : Instant) (hnone : s.nextLaunches = []) :
    s.launchWhileFree now s.runningCount s.readyNames = (s, {}) := by
  rcases nextLaunches_eq_nil.mp hnone with hnames | hfull
  · rw [hnames]
    rfl
  · cases s.readyNames with
    | nil => rfl
    | cons p more => rw [launchWhileFree, if_pos hfull]

theorem launch_newlyBlocked (s : Schedule) (now : Instant) (index : UInt32) (delay : Span)
    (p : ProcessName) : (s.launch now index delay p).2.newlyBlocked = [] := by
  unfold launch
  split
  · rfl
  · split <;> rfl

theorem launchWhileFree_newlyBlocked (s : Schedule) (now : Instant) (running : Nat)
    (names : List ProcessName) : (s.launchWhileFree now running names).2.newlyBlocked = [] := by
  induction names generalizing s running with
  | nil => rfl
  | cons p rest ih =>
    rw [launchWhileFree]
    split
    · rfl
    · simp [Step.andThen, launch_newlyBlocked, ih]

theorem advance_newlyBlocked (s : Schedule) (now : Instant) :
    (s.advance now).2.newlyBlocked = [] := by
  have hone : ∀ t : Schedule, t.concludeSettled.2.newlyBlocked = [] := by
    intro t
    unfold concludeSettled
    split <;> rfl
  simp [advance, Step.andThen, launchWhileFree_newlyBlocked, hone]

theorem advance_changes (now : Instant) (h : s.Sound) (undecided : s.decision = none) :
    Changes (.start now) s (s.advance now).2 (s.advance now).1 ∧
      ((s.advance now).1.decision = none → (s.advance now).1.Busy) := by
  obtain ⟨changes, hnone, hdone, _⟩ := launchWhileFree_changes now h undecided rfl
  generalize hlaunched : s.launchWhileFree now s.runningCount s.readyNames = result
    at changes hnone hdone
  obtain ⟨t, step⟩ := result
  simp only [advance, hlaunched]
  by_cases hout : t.lifecycles.any t.isOutstanding = true
  · simp only [concludeSettled, hout, Bool.or_true, if_true, Step.andThen_nil]
    exact ⟨changes, fun _ => ⟨hdone, hout⟩⟩
  · have hsettled : t.lifecycles.any t.isOutstanding = false := by simpa using hout
    have change : Change (.start now) t _ (t.decide .success) := .conclude hnone hsettled
    have hdecided : t.isDecided = false := by simp [isDecided, show t.decision = none from hnone]
    simp only [concludeSettled, hsettled, hdecided, Bool.or_false, Bool.false_eq_true, if_false]
    exact ⟨changes.append (.one change), fun hcontra => by cases hcontra⟩

/-- What is launched for the first time is the next that can be launched. -/
theorem advance_launched (now : Instant) (h : s.Sound) (undecided : s.decision = none) :
    (s.advance now).2.launched.map (·.id) = s.nextLaunches.map (⟨·, 0⟩) := by
  obtain ⟨_, _, _, hids⟩ := launchWhileFree_changes now h undecided rfl
  have hone : ∀ t : Schedule, t.concludeSettled.2.launched = [] := by
    intro t
    unfold concludeSettled
    split <;> rfl
  simp only [advance, Step.andThen_launched, hone, List.append_nil, hids]

/-! ## Completions -/

variable {index : UInt32} {report : Report} {now : Instant}

/-- What an operation leads to: a series of changes, and a busy schedule unless
the task is decided. -/
structure Conducted (op : Operation) (s : Schedule) (result : Schedule × Step) : Prop where
  changes : Changes op s result.2 result.1
  busy : result.1.decision = none → result.1.Busy

/-- What an accepted completion leads to: the change that closes its attempt, and
the launches that this makes room for. -/
inductive Accepted (id : AttemptId) (report : Report) (now : Instant) (s : Schedule) :
    Schedule × Step → Prop
  | closing {first rest : Step} {t u : Schedule} {more : List Transition}
      (change : Change (.complete id report now) s first t)
      (closes : first.transitions = Transition.closing id report :: more)
      (launches : Changes (.start now) t rest u) (busy : u.decision = none → u.Busy) :
      Accepted id report now s (u, first.andThen rest)

theorem Accepted.of_decided {id : AttemptId} {t : Schedule} {step : Step}
    {more : List Transition} (change : Change (.complete id report now) s step t)
    (closes : step.transitions = Transition.closing id report :: more)
    (decided : t.decision ≠ none) : Accepted id report now s (t, step) := by
  have h := Accepted.closing change closes (.none t) fun undecided => absurd undecided decided
  rwa [Step.andThen_nil] at h

/-- A change followed by the launches that it makes room for. -/
theorem Accepted.advance {id : AttemptId} {t : Schedule} {first : Step}
    {more : List Transition} (h : s.Sound) (change : Change (.complete id report now) s first t)
    (closes : first.transitions = Transition.closing id report :: more)
    (undecided : t.decision = none) :
    Accepted id report now s ((t.advance now).1, first.andThen (t.advance now).2) := by
  obtain ⟨launches, busy⟩ := advance_changes now (change.sound h) undecided
  exact .closing change closes launches busy

/-- How a completion that closes an attempt is followed up: by nothing once the task
is decided, and by new launches before. -/
inductive Followed (id : AttemptId) (report : Report) (now : Instant) (s : Schedule) :
    Schedule × Step → Prop
  | decided {t : Schedule} {step : Step} {more : List Transition}
      (change : Change (.complete id report now) s step t)
      (closes : step.transitions = Transition.closing id report :: more)
      (decided : t.decision ≠ none) : Followed id report now s (t, step)
  | advanced {t : Schedule} {first : Step} {more : List Transition}
      (change : Change (.complete id report now) s first t)
      (closes : first.transitions = Transition.closing id report :: more)
      (undecided : t.decision = none) :
      Followed id report now s ((t.advance now).1, first.andThen (t.advance now).2)

theorem Followed.accepted {id : AttemptId} {result : Schedule × Step} (h : s.Sound)
    (followed : Followed id report now s result) : Accepted id report now s result := by
  cases followed with
  | decided change closes decided => exact .of_decided change closes decided
  | advanced change closes undecided => exact .advance h change closes undecided

theorem Accepted.conducted {id : AttemptId} {result : Schedule × Step}
    (h : Accepted id report now s result) : Conducted (.complete id report now) s result := by
  obtain ⟨change, _, launches, busy⟩ := h
  exact ⟨.more change (launches.of_start _), busy⟩

theorem transitions_cons_eq_andThen (transition : Transition) (step : Step) :
    { step with transitions := transition :: step.transitions } =
      Step.andThen { transitions := [transition] } step := by
  obtain ⟨launched, transitions, newlyBlocked, decision, toStop⟩ := step
  simp [Step.andThen]

/-- A completion that names no attempt in flight changes nothing. -/
theorem complete_ignored (hd : s.Distinct) {id : AttemptId} (hid : id ∉ s.inFlight) :
    s.complete id report now = (s, {}) := by
  unfold complete
  cases hfind : s.lifecycle? id.process with
  | none => rfl
  | some life =>
    obtain ⟨hmem, hname⟩ := (lifecycle?_eq_some hd).mp hfind
    have hclosed : life.openAttempt? ≠ some id.index := fun hopen =>
      hid (mem_inFlight.mpr ⟨life, hmem, hname, hopen⟩)
    obtain ⟨refusal, hlate⟩ := Lifecycle.completeLate_refused report hclosed
    obtain ⟨refusal', hcomplete⟩ :=
      Lifecycle.complete_refused report s.options.minDuration hclosed
    simp only [hlate, hcomplete, put_self hd hmem, ite_self]

theorem complete_late (hd : s.Distinct) (hmem : life ∈ s.lifecycles)
    (hopen : life.openAttempt? = some index) (decided : s.decision ≠ none) :
    s.complete ⟨life.name, index⟩ report now =
      (s.put (life.closedLate report),
        { transitions := [Transition.closing ⟨life.name, index⟩ report] }) := by
  have hdecided : s.isDecided = true := Option.isSome_iff_ne_none.mpr decided
  simp [complete, lifecycle?_self hd hmem, hdecided, Lifecycle.completeLate_eq_ok report hopen]

theorem complete_success (hd : s.Distinct) (hmem : life ∈ s.lifecycles)
    (hopen : life.openAttempt? = some index) (undecided : s.decision = none)
    (hsuccess : report.outcome.isSuccess = true) :
    s.complete ⟨life.name, index⟩ report now =
      (((s.noteSuccess life report).advance now).1,
        Step.andThen { transitions := [Transition.closing ⟨life.name, index⟩ report] }
          ((s.noteSuccess life report).advance now).2) := by
  rw [← transitions_cons_eq_andThen]
  simp only [complete, lifecycle?_self hd hmem, isDecided, undecided,
    Lifecycle.complete_eq_ok_of_success s.options.minDuration hopen hsuccess]
  rfl

/-- A retry within the budget launches the process again and goes on. -/
theorem settle_retry (hwithin : (s.budget.record false).exceeded = false) {process : ProcessName}
    {delay : Span} :
    (s.put (life.tolerated report)).settle process (.retry (index + 1) delay) now =
      let relaunch := (s.noteRetry life report).launch now (index + 1) delay process
      ((relaunch.1.advance now).1, relaunch.2.andThen (relaunch.1.advance now).2) := by
  have hbudget : ¬ (s.noteRetry life report).budget.exceeded = true := by simp [hwithin]
  exact if_neg hbudget

theorem complete_retry (hc : s.Coherent) (hmem : life ∈ s.lifecycles)
    (hopen : life.openAttempt? = some index) (undecided : s.decision = none)
    (hfailure : report.outcome.isSuccess = false)
    (hleft : life.failures + 1 < life.failureLimit)
    (hwithin : (s.budget.record false).exceeded = false) :
    s.complete ⟨life.name, index⟩ report now =
      ((((s.noteRetry life report).put ((life.tolerated report).opened now)).advance now).1,
        Step.andThen
          { launched := [Attempt.ofSpec life.spec (index + 1)
              (life.restartDelay report s.options.minDuration)]
            transitions := [Transition.closing ⟨life.name, index⟩ report,
              Transition.launch (life.tolerated report).nextId now] }
          (((s.noteRetry life report).put
            ((life.tolerated report).opened now)).advance now).2) := by
  have hnoted := hc.noteRetry hmem hopen hfailure hleft
  have hmem' : life.tolerated report ∈ (s.noteRetry life report).lifecycles :=
    mem_put_self hc.distinct hmem rfl
  have hlife := hc.lifecycles life hmem
  have hrunning := hlife.running_of_openAttempt? hopen
  have hlaunch := launch_eq hnoted.distinct hmem' (by rw [Lifecycle.tolerated_state, hrunning]; rfl)
    (hlife.openAttempt?_of_closed hopen rfl) now (index + 1)
    (life.restartDelay report s.options.minDuration)
  rw [Lifecycle.name_eq_of_spec (Lifecycle.tolerated_spec life report)] at hlaunch
  simp only [complete, lifecycle?_self hc.distinct hmem, isDecided, undecided, Option.isSome_none,
    Bool.false_eq_true, if_false,
    Lifecycle.complete_eq_ok_of_retry s.options.minDuration hopen hfailure hleft,
    settle_retry hwithin, hlaunch]
  simp [Step.andThen]

theorem complete_overrun (hd : s.Distinct) (hmem : life ∈ s.lifecycles)
    (hopen : life.openAttempt? = some index) (undecided : s.decision = none)
    (hfailure : report.outcome.isSuccess = false)
    (hleft : life.failures + 1 < life.failureLimit)
    (hover : (s.budget.record false).exceeded = true) :
    s.complete ⟨life.name, index⟩ report now =
      ((s.noteRetry life report).decide
          (.failed ((s.noteRetry life report).budgetReason life.name)),
        (s.noteRetry life report).failing [Transition.closing ⟨life.name, index⟩ report] []
          ((s.noteRetry life report).budgetReason life.name)) := by
  simp only [complete, lifecycle?_self hd hmem, isDecided, undecided, Option.isSome_none,
    Bool.false_eq_true, if_false,
    Lifecycle.complete_eq_ok_of_retry s.options.minDuration hopen hfailure hleft, settle,
    put_budget, hover, if_true]
  rfl

theorem complete_fatal (hd : s.Distinct) (hmem : life ∈ s.lifecycles)
    (hopen : life.openAttempt? = some index) (undecided : s.decision = none)
    (hfailure : report.outcome.isSuccess = false)
    (hlast : life.failureLimit ≤ life.failures + 1)
    (hwaited : s.task.precedence.isPredecessor life.name = true) :
    s.complete ⟨life.name, index⟩ report now =
      ((s.noteFailure life report).decide (.failed (.dependencyFailed life.name)),
        (s.noteFailure life report).failing [Transition.closing ⟨life.name, index⟩ report]
          (s.blockedBy life.name) (.dependencyFailed life.name)) := by
  simp only [complete, lifecycle?_self hd hmem, isDecided, undecided, Option.isSome_none,
    Bool.false_eq_true, if_false,
    Lifecycle.complete_eq_ok_of_last s.options.minDuration hopen hfailure hlast, settle,
    put_task, hwaited, if_true]
  rfl

theorem complete_exhaust (hd : s.Distinct) (hmem : life ∈ s.lifecycles)
    (hopen : life.openAttempt? = some index) (undecided : s.decision = none)
    (hfailure : report.outcome.isSuccess = false)
    (hlast : life.failureLimit ≤ life.failures + 1)
    (hleaf : s.task.precedence.isPredecessor life.name = false)
    (hover : (s.budget.record true).exceeded = true) :
    s.complete ⟨life.name, index⟩ report now =
      ((s.noteFailure life report).decide
          (.failed ((s.noteFailure life report).budgetReason life.name)),
        (s.noteFailure life report).failing [Transition.closing ⟨life.name, index⟩ report]
          (s.blockedBy life.name) ((s.noteFailure life report).budgetReason life.name)) := by
  simp only [complete, lifecycle?_self hd hmem, isDecided, undecided, Option.isSome_none,
    Bool.false_eq_true, if_false,
    Lifecycle.complete_eq_ok_of_last s.options.minDuration hopen hfailure hlast, settle,
    put_task, put_budget, hleaf, hover, if_true]
  rfl

/-- A failure that is tolerated frees its place for others. -/
theorem settle_tolerate (hleaf : s.task.precedence.isPredecessor life.name = false)
    (hwithin : (s.budget.record true).exceeded = false) :
    (s.put (life.givenUp report)).settle life.name .permanentlyFailed now =
      (((s.noteFailure life report).advance now).1,
        { ((s.noteFailure life report).advance now).2 with
          newlyBlocked := s.blockedBy life.name }) := by
  have hchoice :
      (if (s.noteFailure life report).task.precedence.isPredecessor life.name = true then
          (s.noteFailure life report).fail (.dependencyFailed life.name)
        else if (s.noteFailure life report).budget.exceeded = true then
          (s.noteFailure life report).fail ((s.noteFailure life report).budgetReason life.name)
        else (s.noteFailure life report).advance now) =
      (s.noteFailure life report).advance now := by
    rw [if_neg (by simp [hleaf]), if_neg (by simp [hwithin])]
  exact congrArg (fun result : Schedule × Step =>
    (result.1, { result.2 with newlyBlocked := s.blockedBy life.name })) hchoice

theorem complete_tolerate (hd : s.Distinct) (hmem : life ∈ s.lifecycles)
    (hopen : life.openAttempt? = some index) (undecided : s.decision = none)
    (hfailure : report.outcome.isSuccess = false)
    (hlast : life.failureLimit ≤ life.failures + 1)
    (hleaf : s.task.precedence.isPredecessor life.name = false)
    (hwithin : (s.budget.record true).exceeded = false) :
    s.complete ⟨life.name, index⟩ report now =
      (((s.noteFailure life report).advance now).1,
        Step.andThen
          { transitions := [Transition.closing ⟨life.name, index⟩ report]
            newlyBlocked := s.blockedBy life.name }
          ((s.noteFailure life report).advance now).2) := by
  have hnone := advance_newlyBlocked (s.noteFailure life report) now
  simp only [complete, lifecycle?_self hd hmem, isDecided, undecided, Option.isSome_none,
    Bool.false_eq_true, if_false,
    Lifecycle.complete_eq_ok_of_last s.options.minDuration hopen hfailure hlast,
    settle_tolerate hleaf hwithin]
  simp [Step.andThen, hnone]

/-- A completion that names an open attempt closes it and is followed up. -/
theorem complete_followed (hc : s.Coherent) (hmem : life ∈ s.lifecycles)
    (hopen : life.openAttempt? = some index) :
    Followed ⟨life.name, index⟩ report now s (s.complete ⟨life.name, index⟩ report now) := by
  have hd := hc.distinct
  by_cases decided : s.decision ≠ none
  · rw [complete_late hd hmem hopen decided]
    exact .decided (.late rfl decided hmem hopen) rfl decided
  have undecided := not_not.mp decided
  cases hout : report.outcome.isSuccess with
  | true =>
    rw [complete_success hd hmem hopen undecided hout]
    exact .advanced (.succeed rfl undecided hmem hopen hout) rfl undecided
  | false =>
    by_cases hleft : life.failures + 1 < life.failureLimit
    · cases hbudget : (s.budget.record false).exceeded with
      | true =>
        rw [complete_overrun hd hmem hopen undecided hout hleft hbudget]
        exact .decided (.overrun rfl undecided hmem hopen hout hleft hbudget) rfl (by simp)
      | false =>
        rw [complete_retry hc hmem hopen undecided hout hleft hbudget]
        exact .advanced (.retry rfl undecided hmem hopen hout hleft hbudget) rfl undecided
    · have hlast := UInt32.not_lt.mp hleft
      cases hwaited : s.task.precedence.isPredecessor life.name with
      | true =>
        rw [complete_fatal hd hmem hopen undecided hout hlast hwaited]
        exact .decided (.fatal rfl undecided hmem hopen hout hlast hwaited) rfl (by simp)
      | false =>
        cases hbudget : (s.budget.record true).exceeded with
        | true =>
          rw [complete_exhaust hd hmem hopen undecided hout hlast hwaited hbudget]
          exact .decided (.exhaust rfl undecided hmem hopen hout hlast hwaited hbudget) rfl
            (by simp)
        | false =>
          rw [complete_tolerate hd hmem hopen undecided hout hlast hwaited hbudget]
          exact .advanced (.tolerate rfl undecided hmem hopen hout hlast hwaited hbudget) rfl
            undecided

theorem complete_accepted (h : s.Sound) (hmem : life ∈ s.lifecycles)
    (hopen : life.openAttempt? = some index) :
    Accepted ⟨life.name, index⟩ report now s (s.complete ⟨life.name, index⟩ report now) :=
  (complete_followed h.coherent hmem hopen).accepted h

/-- A completion of an attempt in flight is accepted. -/
theorem complete_inFlight (h : s.Sound) {id : AttemptId} (hid : id ∈ s.inFlight)
    (report : Report) (now : Instant) :
    Accepted id report now s (s.complete id report now) := by
  obtain ⟨life, hmem, hname, hopen⟩ := mem_inFlight.mp hid
  obtain ⟨process, index⟩ := id
  subst hname
  exact complete_accepted h hmem hopen

/-! ## All operations -/

theorem apply_start (undecided : s.decision = none) (now : Instant) :
    s.apply (.start now) = s.advance now := by
  simp [apply, start, isDecided, undecided]

/-- An operation is ignored, or conducted. -/
theorem apply_conducted (h : s.Sound) (op : Operation) :
    s.apply op = (s, {}) ∨ Conducted op s (s.apply op) := by
  cases op with
  | start now =>
    by_cases hdecided : s.isDecided = true
    · exact Or.inl (if_pos hdecided)
    · have undecided : s.decision = none := by simpa [isDecided] using hdecided
      rw [apply_start undecided]
      obtain ⟨changes, hbusy⟩ := advance_changes now h undecided
      exact Or.inr ⟨changes, hbusy⟩
  | complete id report now =>
    by_cases hid : id ∈ s.inFlight
    · exact Or.inr (complete_inFlight h hid report now).conducted
    · exact Or.inl (complete_ignored h.coherent.distinct hid)
  | cancel =>
    simp only [apply, cancel]
    by_cases hdecided : s.isDecided = true
    · exact Or.inl (if_pos hdecided)
    · have undecided : s.decision = none := by simpa [isDecided] using hdecided
      rw [if_neg hdecided]
      exact Or.inr ⟨.one (.cancel rfl undecided), fun hcontra => by cases hcontra⟩

theorem apply_changes (h : s.Sound) (op : Operation) :
    Changes op s (s.apply op).2 (s.apply op).1 := by
  rcases apply_conducted h op with hsame | hconducted
  · rw [hsame]
    exact .none s
  · exact hconducted.changes

/-- An operation makes at most one change of its own, and then launches only. -/
theorem apply_split (h : s.Sound) (op : Operation) :
    ∃ now t first rest, (t = s ∧ first = {} ∨ Change op s first t) ∧
      Changes (.start now) t rest (s.apply op).1 ∧ (s.apply op).2 = first.andThen rest := by
  cases op with
  | start now =>
    exact ⟨now, s, {}, _, Or.inl ⟨rfl, rfl⟩, apply_changes h (.start now),
      (Step.nil_andThen _).symm⟩
  | complete id report now =>
    by_cases hid : id ∈ s.inFlight
    · have haccepted := complete_inFlight h hid report now
      simp only [apply]
      generalize s.complete id report now = result at haccepted ⊢
      obtain ⟨change, _, launches, _⟩ := haccepted
      exact ⟨now, _, _, _, Or.inr change, launches, rfl⟩
    · rw [apply, complete_ignored h.coherent.distinct hid]
      exact ⟨now, s, {}, {}, Or.inl ⟨rfl, rfl⟩, .none s, rfl⟩
  | cancel =>
    simp only [apply, cancel]
    by_cases hdecided : s.isDecided = true
    · rw [if_pos hdecided]
      exact ⟨default, s, {}, {}, Or.inl ⟨rfl, rfl⟩, .none s, rfl⟩
    · have undecided : s.decision = none := by simpa [isDecided] using hdecided
      rw [if_neg hdecided]
      exact ⟨default, _, _, {}, Or.inr (.cancel rfl undecided), .none _, (Step.andThen_nil _).symm⟩

theorem apply_sound (h : s.Sound) (op : Operation) : (s.apply op).1.Sound :=
  (apply_changes h op).sound h

theorem after_sound (h : s.Sound) (ops : List Operation) : (s.after ops).Sound := by
  induction ops generalizing s with
  | nil => exact h
  | cons op rest ih => exact ih (apply_sound h op)

theorem apply_task (h : s.Sound) (op : Operation) : (s.apply op).1.task = s.task :=
  (apply_changes h op).task

theorem apply_decision (h : s.Sound) (op : Operation) :
    (s.apply op).1.decision = s.decision.or (s.apply op).2.decision :=
  (apply_changes h op).decision

theorem apply_undecided (h : s.Sound) {op : Operation} (hnone : (s.apply op).1.decision = none) :
    s.decision = none := by
  rw [apply_decision h, Option.or_eq_none_iff] at hnone
  exact hnone.1

theorem after_task (h : s.Sound) (ops : List Operation) : (s.after ops).task = s.task := by
  induction ops generalizing s with
  | nil => rfl
  | cons op rest ih => exact (ih (apply_sound h op)).trans (apply_task h op)

theorem after_options (h : s.Sound) (ops : List Operation) :
    (s.after ops).options = s.options := by
  induction ops generalizing s with
  | nil => rfl
  | cons op rest ih => exact (ih (apply_sound h op)).trans (apply_changes h op).options

section Reachable

variable {task : TaskSpec} {options : SchedulerOptions}

theorem Reachable.sound (h : Reachable task options s) : s.Sound := by
  obtain ⟨ops, rfl⟩ := h
  exact after_sound (initial_sound task options) ops

theorem Reachable.task_eq (h : Reachable task options s) : s.task = task := by
  obtain ⟨ops, rfl⟩ := h
  exact after_task (initial_sound task options) ops

theorem Reachable.options_eq (h : Reachable task options s) : s.options = options := by
  obtain ⟨ops, rfl⟩ := h
  exact after_options (initial_sound task options) ops

theorem Reachable.after (h : Reachable task options s) (ops : List Operation) :
    Reachable task options (s.after ops) := by
  obtain ⟨before, rfl⟩ := h
  exact ⟨before ++ ops, after_append _ _ _⟩

/-- What holds at the outset and is kept by each change holds of every schedule
that a run can reach. -/
theorem Reachable.keep {P : Schedule → Prop} (h : Reachable task options s)
    (outset : P (initial task options))
    (kept : ∀ {op s t step}, Change op s step t → s.Sound → P s → P t) : P s := by
  obtain ⟨ops, rfl⟩ := h
  have hinitial := initial_sound task options
  generalize initial task options = s at outset hinitial
  induction ops generalizing s with
  | nil => exact outset
  | cons op rest ih =>
    exact ih _ ((apply_changes hinitial op).keep kept hinitial outset) (apply_sound hinitial op)

end Reachable

end Schedule

end Overseer
