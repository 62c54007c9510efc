import Overseer.Proofs.Schedule.Completions
import Overseer.Proofs.Schedule.Liveness

/-!
# A decision is final

Once a task is decided, a call either does nothing or closes one run that was in
flight. Everything but the lifecycles stays as it was at the decision, no
lifecycle that was pending is touched, and no step launches, blocks, stops or
decides anything. What is in flight at the decision ends as it is reported to
end: `Schedule.drained` writes the final schedule down without any order, so the
order in which the last completions arrive does not matter. A task that has
succeeded has nothing in flight, so there no completion comes late.

Results:
1. `apply_aftermath`: a call on a decided schedule.
2. `after_frozen`: any number of calls.
3. `after_deliveries`: one completion for each attempt in flight.
4. `Reachable.settled_of_success`: what a success leaves behind.
5. `Reachable.decision_final`: a decided schedule is frozen.
-/

namespace Overseer

/-- The lifecycle once its open attempt, if there is one, has ended as answered. -/
def Lifecycle.drained (life : Lifecycle) (answers : AttemptId → Report) : Lifecycle :=
  match life.openAttempt? with
  | some index => life.closedLate (answers ⟨life.name, index⟩)
  | none => life

/-- A step that starts nothing and settles nothing. -/
structure Step.Silent (step : Step) : Prop where
  launched : step.launched = []
  newlyBlocked : step.newlyBlocked = []
  toStop : step.toStop = []
  decision : step.decision = none

namespace Schedule

/-- What an operation leads to when the task is decided. -/
inductive Aftermath (s : Schedule) (op : Operation) : Schedule × Step → Prop
  | ignored : Aftermath s op (s, {})
  /-- The run `last`, which was in flight, takes its reported outcome. The failures
  of its process are not counted any more. -/
  | closed (life : Lifecycle) (earlier : List Run) (last : Run) (report : Report) (now : Instant)
      (call : op = .complete last.id report now) (inFlight : last.id ∈ s.inFlight)
      (mem : life ∈ s.lifecycles) (runs : life.runs = earlier ++ [last]) :
      Aftermath s op
        (s.put { life with
            runs := earlier ++ [last.close report life.spec.minDuration]
            state := report.outcome.runState },
          { transitions := [Transition.closing last.id report] })

/-- `t` may come after the decided schedule `s`: it differs in the lifecycles
only, and what was pending is pending still. -/
structure Frozen (s t : Schedule) : Prop where
  same : t = { s with lifecycles := t.lifecycles }
  waiting : ∀ p, s.stateOf? p = some .pending → t.stateOf? p = some .pending

variable {s t u : Schedule} {life : Lifecycle} {op : Operation}

/-! ## One call -/

theorem apply_aftermath (h : s.Sound) (decided : s.decision ≠ none) (op : Operation) :
    Aftermath s op (s.apply op) := by
  have hdecided : s.isDecided = true := Option.isSome_iff_ne_none.mpr decided
  cases op with
  | start now =>
    rw [show s.apply (.start now) = (s, {}) from if_pos hdecided]
    exact .ignored
  | cancel =>
    rw [show s.apply .cancel = (s, {}) from if_pos hdecided]
    exact .ignored
  | complete id report now =>
    by_cases hid : id ∈ s.inFlight
    · obtain ⟨life, hmem, hname, hopen⟩ := mem_inFlight.mp hid
      obtain ⟨process, index⟩ := id
      subst hname
      obtain ⟨earlier, last, hflight⟩ := (h.coherent.lifecycles life hmem).inFlight hopen
      have happly : s.apply (.complete ⟨life.name, index⟩ report now) = _ :=
        complete_late h.coherent.distinct hmem hopen decided
      rw [happly, Lifecycle.closedLate, hflight.closedRuns, ← hflight.id]
      exact .closed life earlier last report now (by rw [hflight.id]) (hflight.id ▸ hid) hmem
        hflight.runs
    · rw [apply, complete_ignored h.coherent.distinct hid]
      exact .ignored

theorem Aftermath.silent {result : Schedule × Step} (h : Aftermath s op result) :
    result.2.Silent := by
  cases h with
  | ignored | closed => exact ⟨rfl, rfl, rfl, rfl⟩

theorem Aftermath.no_launch {result : Schedule × Step} (h : Aftermath s op result) :
    ∀ transition ∈ result.2.transitions, transition.isLaunch = false := by
  cases h with
  | ignored => exact fun _ hmem => absurd hmem List.not_mem_nil
  | closed => exact List.forall_mem_singleton.mpr rfl

theorem Frozen.refl (s : Schedule) : Frozen s s := ⟨rfl, fun _ hp => hp⟩

theorem Frozen.trans (hst : Frozen s t) (htu : Frozen t u) : Frozen s u where
  same := by
    rw [htu.same, hst.same]
  waiting := fun p hp => htu.waiting p (hst.waiting p hp)

theorem Frozen.decision (h : Frozen s t) : t.decision = s.decision := by rw [h.same]

theorem Frozen.progress (h : Frozen s t) : t.progress = s.progress := by rw [h.same]

theorem Frozen.task (h : Frozen s t) : t.task = s.task := by rw [h.same]

theorem Aftermath.frozen {result : Schedule × Step} (h : s.Sound)
    (aftermath : Aftermath s op result) : Frozen s result.1 := by
  cases aftermath with
  | ignored => exact .refl s
  | closed life earlier last report now call inFlight mem runs =>
    refine ⟨rfl, fun p hp => ?_⟩
    have hd := h.coherent.distinct
    generalize hnew : ({ life with
      runs := earlier ++ [last.close report life.spec.minDuration]
      state := report.outcome.runState } : Lifecycle) = new
    have hname : new.name = life.name := by rw [← hnew, Lifecycle.name, Lifecycle.name]
    obtain ⟨other, hother, rfl, hpending⟩ := (stateOf?_eq_some hd).mp hp
    -- A pending process has no run, so it is not the one whose run is closed.
    have hne : other ≠ life := by
      rintro rfl
      rw [(h.coherent.lifecycles other hother).pending_iff.mp hpending] at runs
      exact absurd runs.symm (by simp)
    exact (stateOf?_eq_some (hd.put mem hname)).mpr
      ⟨other, (mem_put hd mem hname).mpr (Or.inr ⟨hother, hne⟩), rfl, hpending⟩

/-! ## Any number of calls -/

theorem after_frozen (h : s.Sound) (decided : s.decision ≠ none) (ops : List Operation) :
    Frozen s (s.after ops) ∧ ∀ step ∈ s.steps ops, step.Silent := by
  induction ops generalizing s with
  | nil => exact ⟨.refl s, by simp [steps]⟩
  | cons op rest ih =>
    have haftermath := apply_aftermath h decided op
    have hfrozen := haftermath.frozen h
    obtain ⟨hrest, hsilent⟩ := ih (apply_sound h op) (hfrozen.decision ▸ decided)
    refine ⟨hfrozen.trans hrest, fun step hstep => ?_⟩
    rcases List.mem_cons.mp hstep with rfl | hstep
    · exact haftermath.silent
    · exact hsilent step hstep

/-- A pending process has no records. -/
theorem Coherent.not_recorded (h : s.Coherent) {p : ProcessName}
    (hp : s.stateOf? p = some .pending) : p ∉ s.records.map (·.1) := by
  obtain ⟨life, hmem, rfl, hpending⟩ := (stateOf?_eq_some h.distinct).mp hp
  intro hrecorded
  obtain ⟨⟨p, runs⟩, hrecord, hname⟩ := List.mem_map.mp hrecorded
  obtain ⟨other, hother, hruns, hother', _⟩ := mem_records.mp hrecord
  rw [h.distinct.eq_of_name hother hmem (hother'.trans hname)] at hruns
  exact hruns ((h.lifecycles life hmem).pending_iff.mp hpending)

/-! ## The last completions -/

/-- The schedule once every attempt in flight has ended as answered. -/
def drained (schedule : Schedule) (answers : AttemptId → Report) : Schedule :=
  { schedule with lifecycles := schedule.lifecycles.map (·.drained answers) }

/-- Completions that arrive in the given order and at the given times. -/
def deliveries (answers : AttemptId → Report) (order : List (AttemptId × Instant)) :
    List Operation :=
  order.map fun arrival => .complete arrival.1 (answers arrival.1) arrival.2

variable {answers : AttemptId → Report}

theorem drained_of_idle (h : s.inFlight = []) : s.drained answers = s := by
  have hidle : ∀ life ∈ s.lifecycles, life.drained answers = life := by
    intro life hmem
    rw [inFlight_eq, List.flatMap_eq_nil_iff] at h
    have hnone : life.openAttempt? = none := by simpa [Lifecycle.openIds] using h life hmem
    simp [Lifecycle.drained, hnone]
  rw [drained, List.map_congr_left hidle, List.map_id']

/-- One completion less to come does not change what they all lead to. -/
theorem drained_put (h : s.Coherent) (hmem : life ∈ s.lifecycles) {index : UInt32}
    (hopen : life.openAttempt? = some index) :
    (s.put (life.closedLate (answers ⟨life.name, index⟩))).drained answers = s.drained answers := by
  generalize hnew : life.closedLate (answers ⟨life.name, index⟩) = new
  have hruns : new.runs = life.closedRuns (answers ⟨life.name, index⟩) := by rw [← hnew]; rfl
  have hname : new.name = life.name := by rw [← hnew]; rfl
  have hdrained : new.drained answers = life.drained answers := by
    simp [Lifecycle.drained, hopen, (h.lifecycles life hmem).openAttempt?_of_closed hopen hruns,
      hnew]
  rw [drained, put_map h.distinct hmem hname _ hdrained]
  rfl

/-- A late completion is one less in flight. -/
theorem inFlight_put_closedLate (h : s.Coherent) (hmem : life ∈ s.lifecycles) {index : UInt32}
    (hopen : life.openAttempt? = some index) (report : Report) :
    s.inFlight.Perm (⟨life.name, index⟩ :: (s.put (life.closedLate report)).inFlight) := by
  have hidle : (life.closedLate report).openAttempt? = none :=
    (h.lifecycles life hmem).openAttempt?_of_closed hopen rfl
  have hids : ((life.closedLate report).openIds ++ [(⟨life.name, index⟩ : AttemptId)]).Perm
      (life.openIds ++ []) := by
    rw [Lifecycle.openIds_eq hopen, Lifecycle.openIds_eq_nil hidle]
    exact List.Perm.refl _
  have hperm := inFlight_put h.distinct (life.closedLate report) hmem rfl hids
  rw [List.append_nil] at hperm
  exact hperm.symm.trans List.perm_append_comm

/-- The order of the last completions does not matter. -/
theorem after_deliveries (h : s.Sound) (decided : s.decision ≠ none)
    {order : List (AttemptId × Instant)} (hall : (order.map (·.1)).Perm s.inFlight) :
    s.after (deliveries answers order) = s.drained answers := by
  -- Each delivery leaves the rest of them in flight and the drained schedule as it is.
  induction order generalizing s with
  | nil => exact (drained_of_idle hall.nil_eq.symm).symm
  | cons arrival rest ih =>
    obtain ⟨⟨process, index⟩, now⟩ := arrival
    have hid : (⟨process, index⟩ : AttemptId) ∈ s.inFlight := hall.subset List.mem_cons_self
    obtain ⟨life, hmem, hname, hopen⟩ := mem_inFlight.mp hid
    simp only at hname hopen
    subst hname
    have hflight := inFlight_put_closedLate h.coherent hmem hopen (answers ⟨life.name, index⟩)
    have hrest := List.Perm.cons_inv (hall.trans hflight)
    have hsound := apply_sound h (.complete ⟨life.name, index⟩ (answers ⟨life.name, index⟩) now)
    have happly : s.apply (.complete ⟨life.name, index⟩ (answers ⟨life.name, index⟩) now) = _ :=
      complete_late h.coherent.distinct hmem hopen decided
    rw [happly] at hsound
    rw [deliveries, List.map_cons, after_cons, happly, ← drained_put h.coherent hmem hopen]
    exact ih hsound decided hrest

end Schedule

/-! ## Success -/

/-- A decision for success finds all processes ended, and they stay so. -/
theorem Change.settled_of_success {op : Operation} {s t : Schedule} {step : Step}
    (change : Change op s step t) (h : s.Sound)
    (hs : s.decision = some .success → s.Settled ∧ s.Active)
    (hsuccess : t.decision = some .success) : t.Settled ∧ t.Active := by
  cases change with
  | launch _ undecided | succeed _ undecided | retry _ undecided | tolerate _ undecided =>
    exact absurd (undecided.symm.trans hsuccess) (by simp)
  | overrun | exhaust | fatal | cancel => cases hsuccess
  | late _ _ mem opened =>
    have hterminal := (hs hsuccess).1 _ mem
    rw [(h.coherent.lifecycles _ mem).running_of_openAttempt? opened] at hterminal
    cases hterminal
  | conclude undecided settled =>
    have ha := h.active undecided
    exact ⟨ha.settled settled, ha.accounted.decide _, ha.running, ha.succeeded, ha.unneeded,
      ha.unblocked, ha.within⟩

namespace Schedule

variable {s : Schedule} {task : TaskSpec} {options : SchedulerOptions}

/-- What holds before a decision goes on to hold after a success. -/
theorem Reachable.settled_of_success (h : Reachable task options s)
    (hsuccess : s.decision = some .success) : s.Settled ∧ s.Active := by
  refine h.keep (P := fun s => s.decision = some .success → s.Settled ∧ s.Active) ?_ ?_ hsuccess
  · intro hinitial
    cases hinitial
  · exact fun change hsound hs => change.settled_of_success hsound hs

/-! ## Runs -/

/-- From the decision on a schedule is frozen: its budget, progress and decision
stay as they are, what is pending stays so and has no records, and no step
launches, blocks, stops or decides anything. The most that a call does is to close
one run in flight with its reported outcome. So the records that remain once every
attempt in flight has ended do not depend on the order of the last completions. -/
theorem Reachable.decision_final (h : Reachable task options s) (decided : s.decision ≠ none)
    (ops : List Operation) :
    Frozen s (s.after ops) ∧
    (∀ step ∈ s.steps ops, step.Silent) ∧
    (∀ p, s.stateOf? p = some .pending → p ∉ (s.after ops).records.map (·.1)) ∧
    (∀ op, Aftermath (s.after ops) op ((s.after ops).apply op)) ∧
    ∀ answers first second,
      (first.map (·.1)).Perm (s.after ops).inFlight →
      (second.map (·.1)).Perm (s.after ops).inFlight →
      ((s.after ops).after (deliveries answers first)).records =
        ((s.after ops).after (deliveries answers second)).records := by
  obtain ⟨hfrozen, hsilent⟩ := after_frozen h.sound decided ops
  have hsound := (h.after ops).sound
  have hdecided : (s.after ops).decision ≠ none := hfrozen.decision ▸ decided
  refine ⟨hfrozen, hsilent, ?_, apply_aftermath hsound hdecided, ?_⟩
  · intro p hp
    exact hsound.coherent.not_recorded (hfrozen.waiting p hp)
  · intro answers first second hfirst hsecond
    rw [after_deliveries hsound hdecided hfirst, after_deliveries hsound hdecided hsecond]

/-- The task is cancelled with `left` and `right` in flight: `bottom` never gets a
record, and the two may end in either order. -/
theorem Reachable.decision_final_diamond :
    let s := (initial .diamond {}).after
      [.start ⟨0⟩, .complete ⟨"top", 0⟩ ⟨.success, ⟨0⟩, ⟨1⟩⟩ ⟨1⟩, .cancel]
    let answers : AttemptId → Report := fun id =>
      if id.process = "left" then ⟨.success, ⟨1⟩, ⟨2⟩⟩ else ⟨.noExitCode, ⟨1⟩, ⟨3⟩⟩
    let first : List (AttemptId × Instant) := [(⟨"left", 0⟩, ⟨2⟩), (⟨"right", 0⟩, ⟨3⟩)]
    s.decision ≠ none ∧ s.stateOf? "bottom" = some .pending ∧
      "bottom" ∉ (s.after (deliveries answers first)).records.map (·.1) ∧
      (s.after (deliveries answers first)).records =
        (s.after (deliveries answers first.reverse)).records := by
  intro s answers first
  have hs : Reachable .diamond {} s := ⟨_, rfl⟩
  have decided : s.decision ≠ none := by decide
  have hbottom : s.stateOf? "bottom" = some .pending := by decide
  have hflight : s.inFlight = [⟨"left", 0⟩, ⟨"right", 0⟩] := by decide
  obtain ⟨_, _, hunrecorded, _⟩ := hs.decision_final decided (deliveries answers first)
  obtain ⟨_, _, _, _, hconfluent⟩ := hs.decision_final decided []
  refine ⟨decided, hbottom, hunrecorded "bottom" hbottom, hconfluent answers first _ ?_ ?_⟩
  · rw [after_nil, hflight]
    exact List.Perm.refl _
  · rw [after_nil, hflight]
    exact List.Perm.swap _ _ _

end Schedule

end Overseer
