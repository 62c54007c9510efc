import Overseer.Proofs.Schedule.Completions

/-!
# Completions on their way

An `Exchange` is a schedule together with its executor, seen from outside: the
attempts that the schedule has announced as launched, the completions that the
executor has sent for them and that have not arrived, and those that have been
delivered. The executor completes each launched attempt at most once, whenever it
likes and with any report. Completions arrive in any order, and the task may be
started and cancelled at any time.

Results:
1. `Exchange.Move.faithful`: every move keeps the launched attempts, those in
   flight and the recorded runs in agreement.
2. `Exchange.Reachable.nothing_lost`: no completion is lost or taken twice.
-/

namespace Overseer

/-! ## Exchanges -/

structure Exchange where
  schedule : Schedule
  /-- All launches so far, in order. -/
  launched : List Attempt := []
  /-- All transitions so far, in order. -/
  announced : List Transition := []
  /-- Sent by the executor and still on their way. -/
  waiting : List (AttemptId × Report) := []
  delivered : List (AttemptId × Report) := []

namespace Exchange

def launchedIds (x : Exchange) : List AttemptId := x.launched.map (·.id)

def waitingIds (x : Exchange) : List AttemptId := x.waiting.map (·.1)

def deliveredIds (x : Exchange) : List AttemptId := x.delivered.map (·.1)

/-- The transitions that announce the end of an attempt. -/
def closings (x : Exchange) : List Transition :=
  x.announced.filter fun transition => !transition.isLaunch

/-- Carries an operation out and notes what it answers. -/
def operate (x : Exchange) (op : Operation) : Exchange :=
  { x with
    schedule := (x.schedule.apply op).1
    launched := x.launched ++ (x.schedule.apply op).2.launched
    announced := x.announced ++ (x.schedule.apply op).2.transitions }

/-- What may happen next. -/
inductive Move (x : Exchange) : Exchange → Prop
  | start (now : Instant) : Move x (x.operate (.start now))
  | cancel : Move x (x.operate .cancel)
  /-- The executor completes an attempt that was launched and not completed yet. -/
  | report (id : AttemptId) (report : Report) (launched : id ∈ x.launchedIds)
      (unsent : id ∉ x.waitingIds) (fresh : id ∉ x.deliveredIds) :
      Move x { x with waiting := x.waiting ++ [(id, report)] }
  /-- Any completion on its way arrives. -/
  | deliver (id : AttemptId) (report : Report) (now : Instant)
      (front rest : List (AttemptId × Report)) (sent : x.waiting = front ++ (id, report) :: rest) :
      Move x { x.operate (.complete id report now) with
        waiting := front ++ rest
        delivered := x.delivered ++ [(id, report)] }

/-- `Reachable task options x`: the exchange `x` arises from the task. -/
inductive Reachable (task : TaskSpec) (options : SchedulerOptions) : Exchange → Prop
  | outset : Reachable task options { schedule := .initial task options }
  | move {x y : Exchange} (reached : Reachable task options x) (move : Move x y) :
      Reachable task options y

/-! ## The invariant -/

/-- The launched attempts are the recorded runs, and each of them is in flight or
has had its completion delivered. -/
structure Faithful (x : Exchange) : Prop where
  sound : x.schedule.Sound
  recorded : x.launchedIds.Perm x.schedule.runIds
  accounted : (x.schedule.inFlight ++ x.deliveredIds).Perm x.launchedIds
  reported : x.schedule.Reported fun id report => (id, report) ∈ x.delivered
  answered : x.closings = x.delivered.map fun entry => Transition.closing entry.1 entry.2
  sentOnce : x.waitingIds.Nodup
  awaited : ∀ id ∈ x.waitingIds, id ∈ x.schedule.inFlight

variable {x y : Exchange} {op : Operation}

theorem operate_launchedIds (x : Exchange) (op : Operation) :
    (x.operate op).launchedIds = x.launchedIds ++ (x.schedule.apply op).2.launchedIds :=
  List.map_append

theorem operate_closings (x : Exchange) (op : Operation) :
    (x.operate op).closings = x.closings ++ (x.schedule.apply op).2.closings :=
  List.filter_append _ _

namespace Faithful

theorem launchedIds_nodup (h : x.Faithful) : x.launchedIds.Nodup :=
  h.recorded.nodup_iff.mpr (Schedule.runIds_nodup h.sound.coherent)

/-- An attempt is in flight from its launch to the delivery of its completion. -/
theorem mem_inFlight (h : x.Faithful) {id : AttemptId} :
    id ∈ x.schedule.inFlight ↔ id ∈ x.launchedIds ∧ id ∉ x.deliveredIds := by
  have hnodup := h.accounted.nodup_iff.mpr h.launchedIds_nodup
  have hdisjoint := (List.nodup_append'.mp hnodup).2.2
  rw [← h.accounted.mem_iff, List.mem_append]
  constructor
  · exact fun hid => ⟨Or.inl hid, fun hdelivered => hdisjoint hid hdelivered⟩
  · rintro ⟨hid | hid, hnot⟩
    · exact hid
    · exact absurd hid hnot

theorem recorded_operate (h : x.Faithful) (op : Operation) :
    (x.operate op).launchedIds.Perm (x.operate op).schedule.runIds := by
  rw [operate_launchedIds]
  have hruns := (Schedule.apply_changes h.sound op).runIds h.sound
  exact (h.recorded.append_right _).trans hruns.symm

/-- What was in flight or is launched is in flight afterwards or was closed. -/
theorem accounted_operate (h : x.Faithful) (op : Operation) :
    ((x.operate op).schedule.inFlight ++
      (x.deliveredIds ++ (x.schedule.apply op).2.closedIds)).Perm (x.operate op).launchedIds := by
  have hflight := (Schedule.apply_changes h.sound op).inFlight h.sound
  have haccounted := h.accounted
  rw [operate_launchedIds]
  simp only [operate, List.perm_iff_count, List.count_append] at hflight haccounted ⊢
  intro id
  have hone := hflight id
  have hmore := haccounted id
  omega

theorem reported_operate (h : x.Faithful) {delivered : List (AttemptId × Report)}
    (hmore : ∀ entry ∈ x.delivered, entry ∈ delivered)
    (hcall : ∀ id report now, op = .complete id report now → (id, report) ∈ delivered) :
    (x.operate op).schedule.Reported fun id report => (id, report) ∈ delivered :=
  (Schedule.apply_changes h.sound op).reported h.sound hcall
    (h.reported.mono fun id report => hmore (id, report))

/-- What was in flight stays so, unless it is closed. -/
theorem inFlight_operate (h : x.Faithful) {id : AttemptId} (hid : id ∈ x.schedule.inFlight)
    (hkept : id ∉ (x.schedule.apply op).2.closedIds) : id ∈ (x.operate op).schedule.inFlight := by
  have hflight := (Schedule.apply_changes h.sound op).inFlight h.sound
  have hmem := hflight.mem_iff.mpr (List.mem_append_left _ hid)
  rcases List.mem_append.mp hmem with hmem | hmem
  · exact hmem
  · exact absurd hmem hkept

/-- Operations that are not completions leave what is on its way as it is. -/
theorem operate (h : x.Faithful) (hop : ∀ id report now, op ≠ .complete id report now) :
    (x.operate op).Faithful := by
  have hclosings := Schedule.apply_closings_eq_nil h.sound hop
  have hclosed : (x.schedule.apply op).2.closedIds = [] := by rw [Step.closedIds, hclosings]; rfl
  have haccounted := h.accounted_operate op
  rw [hclosed, List.append_nil] at haccounted
  exact
    { sound := Schedule.apply_sound h.sound op
      recorded := h.recorded_operate op
      accounted := haccounted
      reported := h.reported_operate (fun _ hentry => hentry)
        fun id report now hcall => absurd hcall (hop id report now)
      answered := by
        rw [operate_closings, hclosings, List.append_nil]
        exact h.answered
      sentOnce := h.sentOnce
      awaited := fun id hid => h.inFlight_operate (h.awaited id hid) (by simp [hclosed]) }

theorem report (h : x.Faithful) {id : AttemptId} (report : Report) (launched : id ∈ x.launchedIds)
    (unsent : id ∉ x.waitingIds) (fresh : id ∉ x.deliveredIds) :
    ({ x with waiting := x.waiting ++ [(id, report)] } : Exchange).Faithful := by
  have hids : ({ x with waiting := x.waiting ++ [(id, report)] } : Exchange).waitingIds =
      x.waitingIds ++ [id] := List.map_append
  refine ⟨h.sound, h.recorded, h.accounted, h.reported, h.answered, ?_, ?_⟩
  · rw [hids]
    rw [← List.concat_eq_append]
    exact h.sentOnce.concat unsent
  · intro other hother
    rw [hids] at hother
    rcases List.mem_append.mp hother with hother | hother
    · exact h.awaited other hother
    · rw [List.mem_singleton.mp hother]
      exact h.mem_inFlight.mpr ⟨launched, fresh⟩

theorem deliver (h : x.Faithful) {id : AttemptId} {report : Report} (now : Instant)
    {front rest : List (AttemptId × Report)} (sent : x.waiting = front ++ (id, report) :: rest) :
    ({ x.operate (.complete id report now) with
        waiting := front ++ rest
        delivered := x.delivered ++ [(id, report)] } : Exchange).Faithful := by
  have hwaiting : x.waitingIds = front.map (·.1) ++ id :: rest.map (·.1) := by
    simp [waitingIds, sent]
  -- The completion is for an attempt in flight, so it is accepted and closes just that one.
  have hflight : id ∈ x.schedule.inFlight := h.awaited id (by simp [hwaiting])
  have hclosings : (x.schedule.apply (.complete id report now)).2.closings =
      [Transition.closing id report] :=
    (Schedule.complete_inFlight h.sound hflight report now).closings h.sound
  have hclosed : (x.schedule.apply (.complete id report now)).2.closedIds = [id] := by
    rw [Step.closedIds, hclosings]
    rfl
  have hnodup := h.sentOnce
  rw [hwaiting, List.nodup_middle, List.nodup_cons] at hnodup
  have haccounted := h.accounted_operate (.complete id report now)
  rw [hclosed] at haccounted
  exact
    { sound := Schedule.apply_sound h.sound _
      recorded := h.recorded_operate _
      accounted := by
        rw [deliveredIds, List.map_append]
        exact haccounted
      reported := by
        refine h.reported_operate (fun entry hentry => List.mem_append_left _ hentry) ?_
        intro id' report' now' hcall
        cases hcall
        exact List.mem_append_right _ List.mem_cons_self
      answered := by
        rw [List.map_append, ← h.answered]
        exact (operate_closings x _).trans (congrArg _ hclosings)
      sentOnce := by simpa [waitingIds] using hnodup.2
      awaited := by
        intro other hother
        have hmem : other ∈ front.map (·.1) ++ rest.map (·.1) := by
          simpa [waitingIds] using hother
        refine h.inFlight_operate (h.awaited other ?_) ?_
        · rw [hwaiting]
          exact List.perm_middle.mem_iff.mpr (List.mem_cons_of_mem _ hmem)
        · rw [hclosed, List.mem_singleton]
          rintro rfl
          exact hnodup.1 hmem }

end Faithful

theorem outset_faithful (task : TaskSpec) (options : SchedulerOptions) :
    ({ schedule := .initial task options } : Exchange).Faithful where
  sound := Schedule.initial_sound task options
  recorded := by
    rw [Schedule.initial_runIds]
    exact List.Perm.refl _
  accounted := by
    rw [Schedule.initial_inFlight]
    exact List.Perm.refl _
  reported := Schedule.initial_reported _
  answered := rfl
  sentOnce := List.nodup_nil
  awaited := by simp [waitingIds]

theorem Move.faithful (move : Move x y) (h : x.Faithful) : y.Faithful := by
  cases move with
  | start now => exact h.operate fun _ _ _ hcall => by cases hcall
  | cancel => exact h.operate fun _ _ _ hcall => by cases hcall
  | report id report launched unsent fresh => exact h.report report launched unsent fresh
  | deliver id report now front rest sent => exact h.deliver now sent

theorem Reachable.faithful {task : TaskSpec} {options : SchedulerOptions}
    (h : Reachable task options x) : x.Faithful := by
  induction h with
  | outset => exact outset_faithful task options
  | move _ move ih => exact move.faithful ih

/-! ## Nothing is lost and nothing taken twice -/

/-- Each attempt is launched at most once and is in flight until its completion
is delivered. Each delivered completion was announced by one transition, and each
that is on its way will be: it ends its attempt, and before the decision it may
make room for launches. The recorded runs are the launched attempts, each open
until it is closed with the report that was delivered for it. -/
theorem Reachable.nothing_lost {task : TaskSpec} {options : SchedulerOptions}
    (h : Reachable task options x) :
    x.launchedIds.Nodup ∧
    (x.schedule.inFlight.Nodup ∧
      ∀ id, id ∈ x.schedule.inFlight ↔ id ∈ x.launchedIds ∧ id ∉ x.deliveredIds) ∧
    (x.deliveredIds.Nodup ∧
      (x.closings = x.delivered.map fun entry => Transition.closing entry.1 entry.2) ∧
      ∀ id report now, (id, report) ∈ x.waiting → ∃ launches,
        (x.schedule.complete id report now).2.transitions =
          Transition.closing id report :: launches ∧
        (∀ transition ∈ launches, transition.isLaunch = true) ∧
        (x.schedule.isDecided = true → launches = [])) ∧
    (x.schedule.recordedIds.Perm x.launchedIds ∧
      ∀ p runs, (p, runs) ∈ x.schedule.records → ∀ run ∈ runs, run.id.process = p ∧
        (∀ now, run.phase = .inFlight now → run.id ∈ x.schedule.inFlight) ∧
        ∀ report met, run.phase = .ended report met → (run.id, report) ∈ x.delivered) := by
  have hx := h.faithful
  have hnodup := List.nodup_append'.mp (hx.accounted.nodup_iff.mpr hx.launchedIds_nodup)
  refine ⟨hx.launchedIds_nodup, ⟨hnodup.1, fun id => hx.mem_inFlight⟩,
    ⟨hnodup.2.1, hx.answered, ?_⟩, (Schedule.recordedIds_perm _).trans hx.recorded.symm, ?_⟩
  · intro id report now hwaiting
    have hid := hx.awaited id (List.mem_map_of_mem hwaiting)
    obtain ⟨launches, htransitions, hlaunches⟩ :=
      (Schedule.complete_inFlight hx.sound hid report now).transitions hx.sound
    refine ⟨launches, htransitions, hlaunches, fun decided => ?_⟩
    rw [Schedule.complete_decided hx.sound hid decided] at htransitions
    exact (List.cons.inj htransitions).2.symm
  · intro p runs hrecord run hrun
    obtain ⟨life, hmem, _, rfl, rfl⟩ := Schedule.mem_records.mp hrecord
    have hlife := hx.sound.coherent.lifecycles life hmem
    refine ⟨hlife.run_process hrun, ?_, hx.reported life hmem run hrun⟩
    intro now hphase
    have hopen := hlife.openAttempt?_of_isOpen hrun (by simp [Run.isOpen, hphase])
    exact Schedule.mem_inFlight.mpr ⟨life, hmem, (hlife.run_process hrun).symm, hopen⟩

/-- A completion that is overtaken by a cancellation still arrives, and does
nothing but close its attempt. -/
theorem Reachable.nothing_lost_pair :
    let report : Report := ⟨.noExitCode, ⟨0⟩, ⟨1⟩⟩
    ∃ x : Exchange, x.Reachable .pair {} ∧ x.schedule.isDecided = true ∧
      x.waiting = [(⟨"first", 0⟩, report)] ∧
      x.schedule.inFlight = [⟨"first", 0⟩] ∧ x.launchedIds.Nodup ∧
      (x.schedule.complete ⟨"first", 0⟩ report ⟨1⟩).2.transitions =
        [Transition.closing ⟨"first", 0⟩ report] := by
  intro report
  let started := ({ schedule := .initial .pair {} } : Exchange).operate (.start ⟨0⟩)
  let x := ({ started with waiting := [(⟨"first", 0⟩, report)] } : Exchange).operate .cancel
  have hx : x.Reachable .pair {} :=
    .move (.move (.move .outset (.start ⟨0⟩))
      (.report ⟨"first", 0⟩ report (by decide) (by decide) (by decide))) .cancel
  obtain ⟨hnodup, _, ⟨_, _, haccepted⟩, _⟩ := hx.nothing_lost
  obtain ⟨launches, htransitions, _, hlate⟩ :=
    haccepted ⟨"first", 0⟩ report ⟨1⟩ List.mem_cons_self
  rw [hlate rfl] at htransitions
  exact ⟨x, hx, rfl, rfl, by decide, hnodup, htransitions⟩
end Exchange

end Overseer
