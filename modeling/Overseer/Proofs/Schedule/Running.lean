import Overseer.Proofs.Schedule.Dispatch

/-!
# Running processes

A process is running exactly while an attempt of it is in flight. Between a tolerated
failure and the retry it has none, but no operation ends there, with one exception: when
a failure that is to be retried exceeds the budget, the task is decided and the retry does
not come. Its process is then running for good with nothing in flight. Only a budget that
counts attempts can be exceeded so.

Nothing else is left over by a decision: once each attempt in flight has been reported, in
any order and with any other operations in between, nothing is in flight.

Results:
1. `Change.attended`, `Reachable.attended`: the invariant.
2. `after_idle`: what has nothing in flight at the decision is not touched any more.
3. `mem_inFlight_after`: what is in flight later on was so at the decision and has not
   been reported since.
4. `Reachable.running_in_flight`: all of this for the runs of a task.
-/

namespace Overseer

/-- What is left of a process whose failure exceeded the budget. -/
inductive Lifecycle.Spent (counting : FailureCounting) (life : Lifecycle) : Prop
  | failed (state : life.state = .failed)
  /-- It still has failures to spare and waits for a retry that does not come. -/
  | waiting (earlier : List Run) (last : Run) (state : life.state = .running)
      (runs : life.runs = earlier ++ [last]) (failed : last.state = .failed)
      (left : life.failures.toNat < life.spec.maxFailures.toNat)
      (attempts : counting = .attempts)

namespace Schedule

/-- The task was declared failed because a failure of `p` exceeded the budget. -/
def Blames (schedule : Schedule) (p : ProcessName) : Prop :=
  ∃ failures limit, schedule.decision = some (.failed (.budgetExceeded p failures limit))

/-- The process is running exactly if an attempt of it is in flight. -/
def Attends (schedule : Schedule) (p : ProcessName) : Prop :=
  schedule.stateOf? p = some .running ↔ ∃ index, ⟨p, index⟩ ∈ schedule.inFlight

/-- All running processes have an attempt in flight but the one that is blamed, which has
none. -/
structure Attended (schedule : Schedule) : Prop where
  running : ∀ life ∈ schedule.lifecycles, life.state = .running →
    (∃ index, life.openAttempt? = some index) ∨ schedule.Blames life.name
  spent : ∀ p, schedule.Blames p → ∃ life ∈ schedule.lifecycles,
    life.name = p ∧ life.openAttempt? = none ∧ life.Spent schedule.options.counting

variable {s t : Schedule} {life : Lifecycle} {op : Operation} {p q : ProcessName}

/-! ## The invariant -/

theorem not_blames (h : s.decision = none) : ¬ s.Blames p := by
  rintro ⟨failures, limit, hdecision⟩
  rw [h] at hdecision
  cases hdecision

theorem Blames.unique (hp : s.Blames p) (hq : s.Blames q) : p = q := by
  obtain ⟨_, _, hp⟩ := hp
  obtain ⟨_, _, hq⟩ := hq
  rw [hp] at hq
  cases hq
  rfl

theorem Active.attended (ha : s.Active) (undecided : s.decision = none) : s.Attended where
  running life hmem hstate := Or.inl (ha.running life hmem hstate)
  spent _ hblames := absurd hblames (not_blames undecided)

/-- One process is changed, and the decision is made with it. The process must not be
running on unless it is blamed, and nobody else may be blamed. -/
theorem Active.attended_put (ha : s.Active) (hd : s.Distinct) (new : Lifecycle)
    (hmem : life ∈ s.lifecycles) (hname : new.name = life.name)
    (hlives : t.lifecycles = (s.put new).lifecycles)
    (hnew : new.state ≠ .running ∨ t.Blames new.name)
    (hspent : ∀ p, t.Blames p → p = new.name ∧ new.openAttempt? = none ∧
      new.Spent t.options.counting) : t.Attended where
  running other hother hstate := by
    rw [hlives] at hother
    rcases of_mem_put hother hd hmem hname with rfl | ⟨hold, _⟩
    · exact Or.inr (hnew.resolve_left fun hne => hne hstate)
    · exact Or.inl (ha.running other hold hstate)
  spent p hblames := by
    obtain ⟨rfl, hidle, hleft⟩ := hspent p hblames
    exact ⟨new, hlives ▸ mem_put_self hd hmem hname, rfl, hidle, hleft⟩

/-- A failure that is retried exceeds the budget only if attempts count, and leaves its
process waiting. -/
theorem Active.tolerated_spent (ha : s.Active) (hc : s.Coherent) (hmem : life ∈ s.lifecycles)
    {index : UInt32} {report : Report} (hopen : life.openAttempt? = some index)
    (hfailure : report.outcome.isSuccess = false) (hleft : life.failures + 1 < life.failureLimit)
    (exceeded : (s.budget.record false).exceeded = true) :
    (life.tolerated report).Spent s.options.counting := by
  obtain ⟨earlier, last, hflight⟩ := (hc.lifecycles life hmem).inFlight hopen
  have hattempts : s.options.counting = .attempts := by
    obtain ⟨_, _, hterminal⟩ := FailureBudget.count_of_exceeded ha.within exceeded
    rw [ha.accounted.budget_counting] at hterminal
    cases hcounting : s.options.counting with
    | attempts => rfl
    | processes => exact absurd (hterminal hcounting) Bool.false_ne_true
  have hlimit : life.failureLimit.toNat = life.spec.maxFailures.toNat := hc.limit_eq hmem
  exact .waiting earlier _ hflight.state (hflight.closedRuns report)
    (Outcome.runState_eq_failed.mpr hfailure) (hlimit ▸ UInt32.lt_iff_toNat_lt.mp hleft) hattempts

/-- A late completion does not touch the process that is blamed. -/
theorem Attended.late (h : s.Attended) (hc : s.Coherent) (hmem : life ∈ s.lifecycles)
    {index : UInt32} (hopen : life.openAttempt? = some index) (report : Report) :
    (s.put (life.closedLate report)).Attended where
  running other hother hstate := by
    rcases of_mem_put hother hc.distinct hmem rfl with rfl | ⟨hold, _⟩
    · rw [Lifecycle.closedLate_state] at hstate
      cases hout : report.outcome <;> rw [hout] at hstate <;> cases hstate
    · exact h.running other hold hstate
  spent p hblames := by
    obtain ⟨other, hother, hname, hidle, hleft⟩ := h.spent p hblames
    have hne : other ≠ life := by
      rintro rfl
      rw [hidle] at hopen
      cases hopen
    have hsame : (life.closedLate report).name = life.name := rfl
    have hput := (mem_put hc.distinct hmem hsame).mpr (Or.inr ⟨hother, hne⟩)
    exact ⟨other, hput, hname, hidle, hleft⟩

end Schedule

open Schedule in
theorem Change.attended {op : Operation} {s t : Schedule} {step : Step}
    (change : Change op s step t) (h : s.Sound) (hs : s.Attended) : t.Attended := by
  by_cases undecided : t.decision = none
  · exact (change.active h undecided).attended undecided
  have hd := h.coherent.distinct
  cases change with
  | launch _ hnone | succeed _ hnone | retry _ hnone | tolerate _ hnone =>
    exact absurd hnone undecided
  | @overrun life index report now _ hnone mem opened failure left exceeded =>
    have hactive := h.active hnone
    have hlife := h.coherent.lifecycles life mem
    refine hactive.attended_put hd (life.tolerated report) mem rfl rfl
      (Or.inr ⟨_, _, rfl⟩) ?_
    rintro p ⟨_, _, hdecision⟩
    cases hdecision
    exact ⟨rfl, hlife.openAttempt?_of_closed opened rfl,
      hactive.tolerated_spent h.coherent mem opened failure left exceeded⟩
  | @exhaust life index report now _ hnone mem opened _ _ _ _ =>
    have hlife := h.coherent.lifecycles life mem
    refine (h.active hnone).attended_put hd (life.givenUp report) mem rfl rfl
      (Or.inl (by simp)) ?_
    rintro p ⟨_, _, hdecision⟩
    cases hdecision
    exact ⟨rfl, hlife.openAttempt?_of_closed opened rfl, .failed rfl⟩
  | @fatal life index report now _ hnone mem _ _ _ _ =>
    refine (h.active hnone).attended_put hd (life.givenUp report) mem rfl rfl
      (Or.inl (by simp)) ?_
    rintro p ⟨_, _, hdecision⟩
    cases hdecision
  | late _ _ mem opened => exact hs.late h.coherent mem opened _
  | cancel _ hnone | conclude hnone =>
    refine ⟨fun life hmem hstate => Or.inl ((h.active hnone).running life hmem hstate), ?_⟩
    rintro p ⟨_, _, hdecision⟩
    cases hdecision

namespace Schedule

variable {task : TaskSpec} {options : SchedulerOptions} {s : Schedule} {life : Lifecycle}
  {op : Operation} {id : AttemptId} {p : ProcessName}

theorem Reachable.attended (h : Reachable task options s) : s.Attended :=
  h.keep ((initial_active task options).attended rfl) fun change hsound => change.attended hsound

theorem Attended.attends (h : s.Attended) (hc : s.Coherent) (hp : ¬ s.Blames p) : s.Attends p := by
  rw [Attends, stateOf?_eq_some hc.distinct]
  constructor
  · rintro ⟨life, hmem, rfl, hstate⟩
    obtain ⟨index, hopen⟩ := (h.running life hmem hstate).resolve_right hp
    exact ⟨index, mem_inFlight.mpr ⟨life, hmem, rfl, hopen⟩⟩
  · rintro ⟨index, hid⟩
    obtain ⟨life, hmem, hname, hopen⟩ := mem_inFlight.mp hid
    exact ⟨life, hmem, hname, (hc.lifecycles life hmem).running_of_openAttempt? hopen⟩

/-! ## After the decision -/

theorem apply_idle (h : s.Sound) (decided : s.decision ≠ none) (hmem : life ∈ s.lifecycles)
    (hidle : life.openAttempt? = none) (op : Operation) : life ∈ (s.apply op).1.lifecycles := by
  have hdecided : s.isDecided = true := Option.isSome_iff_ne_none.mpr decided
  cases op with
  | start now => rwa [show s.apply (.start now) = (s, {}) from if_pos hdecided]
  | cancel => rwa [show s.apply .cancel = (s, {}) from if_pos hdecided]
  | complete id report now =>
    by_cases hid : id ∈ s.inFlight
    · obtain ⟨other, hother, hname, hopen⟩ := mem_inFlight.mp hid
      obtain ⟨process, index⟩ := id
      subst hname
      have hne : life ≠ other := by
        rintro rfl
        rw [hidle] at hopen
        cases hopen
      rw [apply, complete_late h.coherent.distinct hother hopen decided]
      have hsame : (other.closedLate report).name = other.name := rfl
      exact (mem_put h.coherent.distinct hother hsame).mpr (Or.inr ⟨hmem, hne⟩)
    · rwa [apply, complete_ignored h.coherent.distinct hid]

/-- A process without an attempt in flight at the decision stays as it is. -/
theorem after_idle (h : s.Sound) (decided : s.decision ≠ none) (hmem : life ∈ s.lifecycles)
    (hidle : life.openAttempt? = none) (ops : List Operation) :
    life ∈ (s.after ops).lifecycles := by
  induction ops generalizing s with
  | nil => exact hmem
  | cons op rest ih =>
    have hfrozen := (apply_aftermath h decided op).frozen h
    exact ih (apply_sound h op) (hfrozen.decision ▸ decided) (apply_idle h decided hmem hidle op)

theorem apply_mem_inFlight (h : s.Sound) (decided : s.decision ≠ none)
    (hid : id ∈ (s.apply op).1.inFlight) :
    id ∈ s.inFlight ∧ ∀ report now, op ≠ .complete id report now := by
  have hcount := apply_inFlight_count h op id
  have hnone : (s.apply op).2.launchedIds = [] := by
    rw [Step.launchedIds, (apply_aftermath h decided op).silent.launched, List.map_nil]
  rw [hnone, List.count_nil, Nat.add_zero] at hcount
  have hafter := List.one_le_count_iff.mpr hid
  have hbefore : id ∈ s.inFlight := List.one_le_count_iff.mp (by omega)
  refine ⟨hbefore, ?_⟩
  rintro report now rfl
  have honce := List.nodup_iff_count_le_one.mp (inFlight_nodup h.coherent) id
  rw [apply_complete_closedIds h hbefore, List.count_singleton_self] at hcount
  omega

/-- What is in flight after the decision was in flight at the decision and has not been
reported since. -/
theorem mem_inFlight_after (h : s.Sound) (decided : s.decision ≠ none) {ops : List Operation}
    (hid : id ∈ (s.after ops).inFlight) :
    id ∈ s.inFlight ∧ ∀ report now, .complete id report now ∉ ops := by
  induction ops generalizing s with
  | nil => exact ⟨hid, fun _ _ => List.not_mem_nil⟩
  | cons op rest ih =>
    have hfrozen := (apply_aftermath h decided op).frozen h
    obtain ⟨hnext, hrest⟩ := ih (apply_sound h op) (hfrozen.decision ▸ decided) hid
    obtain ⟨hbefore, hfirst⟩ := apply_mem_inFlight h decided hnext
    refine ⟨hbefore, fun report now hmem => ?_⟩
    rcases List.mem_cons.mp hmem with heq | hmem
    · exact hfirst report now heq.symm
    · exact hrest report now hmem

/-! ## Runs -/

/-- A process is running exactly if an attempt of it is in flight, unless a failure of it
exceeded the budget. That process has failed or waits in vain for a retry; it has nothing
in flight and stays as it is. Once every attempt in flight at the decision has been
reported, whatever else is done, the task is decided with nothing in flight. -/
theorem Reachable.running_in_flight (h : Reachable task options s) :
    (∀ p, ¬ s.Blames p → s.Attends p) ∧
    (∀ p, s.Blames p → (∀ q, q ≠ p → s.Attends q) ∧
      ∃ life : Lifecycle, life.Spent options.counting ∧
        ∀ ops, (s.after ops).lifecycle? p = some life ∧
          ∀ index, ⟨p, index⟩ ∉ (s.after ops).inFlight) ∧
    (s.decision ≠ none → ∀ ops, (∀ id ∈ s.inFlight, ∃ report now, .complete id report now ∈ ops) →
      (s.after ops).decision = s.decision ∧ (s.after ops).inFlight = []) := by
  have hsound := h.sound
  have hattended := h.attended
  have hoptions := h.options_eq
  refine ⟨fun p hp => hattended.attends hsound.coherent hp, fun p hp => ⟨fun q hq => ?_, ?_⟩,
    fun decided ops hall => ⟨(after_frozen hsound decided ops).1.decision, ?_⟩⟩
  · exact hattended.attends hsound.coherent fun hblames => hq (hblames.unique hp)
  · obtain ⟨life, hmem, rfl, hidle, hspent⟩ := hattended.spent p hp
    have decided : s.decision ≠ none := fun undecided => not_blames undecided hp
    refine ⟨life, hoptions ▸ hspent, fun ops => ?_⟩
    have hd := (after_sound hsound ops).coherent.distinct
    have hkept := after_idle hsound decided hmem hidle ops
    refine ⟨lifecycle?_self hd hkept, fun index hid => ?_⟩
    obtain ⟨other, hother, hname, hopen⟩ := mem_inFlight.mp hid
    rw [hd.eq_of_name hother hkept hname, hidle] at hopen
    cases hopen
  · refine List.eq_nil_iff_forall_not_mem.mpr fun id hid => ?_
    obtain ⟨hbefore, hnever⟩ := mem_inFlight_after hsound decided hid
    obtain ⟨report, now, hmem⟩ := hall id hbefore
    exact hnever report now hmem

end Schedule

/-- `first` may fail three times and `second` once, at the same time; the task tolerates one
failure. -/
def TaskDraft.stubborn : TaskDraft :=
  { unordered with
    maxConcurrency := 0
    processes := [⟨"first", "true", 3, .zero⟩, ⟨"second", "true", 1, .zero⟩] }

def TaskSpec.stubborn : TaskSpec where
  toTaskDraft := .stubborn
  precedence := unordered.precedence
  checked := TaskDraft.check_unordered

namespace Schedule

/-- The second failed attempt of `first` exceeds the budget: `first` is running for good,
while `second` is still in flight and ends as it is reported to. -/
theorem Reachable.running_in_flight_stubborn :
    let s := (initial .stubborn { counting := .attempts }).after [.start ⟨0⟩,
      .complete ⟨"first", 0⟩ ⟨.noExitCode, ⟨0⟩, ⟨1⟩⟩ ⟨1⟩,
      .complete ⟨"first", 1⟩ ⟨.noExitCode, ⟨1⟩, ⟨2⟩⟩ ⟨2⟩]
    let last : List Operation := [.cancel, .complete ⟨"second", 0⟩ ⟨.success, ⟨0⟩, ⟨3⟩⟩ ⟨3⟩]
    s.Blames "first" ∧ s.stateOf? "first" = some .running ∧ s.Attends "second" ∧
      s.inFlight = [⟨"second", 0⟩] ∧
      (∀ ops, (s.after ops).stateOf? "first" = some .running) ∧
      (s.after last).decision ≠ none ∧ (s.after last).inFlight = [] := by
  intro s last
  have hs : Reachable .stubborn { counting := .attempts } s := ⟨_, rfl⟩
  have hblames : s.Blames "first" := ⟨2, 1, by decide⟩
  have hrunning : s.stateOf? "first" = some .running := by decide
  have hflight : s.inFlight = [⟨"second", 0⟩] := by decide
  have decided : s.decision ≠ none := by decide
  have hall : ∀ id ∈ s.inFlight, ∃ report now, .complete id report now ∈ last := by
    rw [hflight]
    exact List.forall_mem_singleton.mpr ⟨_, _, List.mem_cons_of_mem _ List.mem_cons_self⟩
  obtain ⟨_, hspent, hdrained⟩ := hs.running_in_flight
  obtain ⟨hothers, life, _, hkept⟩ := hspent "first" hblames
  obtain ⟨hdecision, hidle⟩ := hdrained decided last hall
  refine ⟨hblames, hrunning, hothers "second" (by decide), hflight, fun ops => ?_,
    hdecision ▸ decided, hidle⟩
  have hsame := (hkept ops).1.trans (hkept []).1.symm
  rw [after_nil] at hsame
  rwa [stateOf?, hsame]

end Schedule

end Overseer
