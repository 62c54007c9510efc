import Overseer.Proofs.Rehearsal.Requests

/-!
# The course of a rehearsal

Between two calls of a rehearsal exactly one message waits for each attempt in flight
that will be heard of, in the backlog or in the channel: the attempts that hang are not
heard of, unless the task was decided and the script reports stops. A call closes the
attempt of its message, if that is about one, and each attempt that it launches is
refused, has its completion sent or hangs. So the messages that wait are never more
than the processes, apart from shutdowns that waited at the outset, and the channel
does not overflow.

Results:
1. `apply_waiting`, `apply_others`, `apply_room`: what waits and what is in flight.
2. `Upcoming.called`: a call keeps the balance.
3. `Upcoming.left_called`: a call leaves less to do.
-/

namespace Overseer

open Schedule Rehearsal
open scoped List

/-! ## Attempts that are heard of -/

/-- Whether a message about an attempt in flight is to come. -/
def Script.heard (script : Script) (decided : Bool) (id : AttemptId) : Bool :=
  !script.isSilent id || (decided && script.reportsStops)

theorem Script.heard_undecided (script : Script) :
    script.heard false = fun id => !script.isSilent id := by
  funext id
  simp [heard]

/-- Once the task is decided, those that hang are heard of besides if stops are reported. -/
theorem Script.heard_perm (script : Script) (ids : List AttemptId) :
    ids.filter (!script.isSilent ·) ++
        (if script.reportsStops then ids.filter script.isSilent else []) ~
      ids.filter (script.heard true) := by
  cases hreports : script.reportsStops with
  | true =>
    have hall : script.heard true = fun _ => true := by
      funext id
      simp [heard, hreports]
    rw [hall, List.filter_true]
    exact List.perm_append_comm.trans (List.filter_append_perm script.isSilent ids)
  | false =>
    have hsame : script.heard true = fun id => !script.isSilent id := by
      funext id
      simp [heard, hreports]
    rw [hsame]
    exact List.Perm.of_eq (List.append_nil _)

namespace Schedule

variable {s : Schedule} {op : Operation} {p q : AttemptId → Bool} {waiting : List AttemptId}

/-- What is in flight of a kind, after an operation. -/
theorem apply_inFlight_filter (h : s.Sound) (op : Operation) (p : AttemptId → Bool) :
    ((s.apply op).1.inFlight.filter p ++ (s.apply op).2.closedIds.filter p).Perm
      (s.inFlight.filter p ++ (s.apply op).2.launchedIds.filter p) := by
  have hperm := ((apply_changes h op).inFlight h).filter p
  rwa [List.filter_append, List.filter_append] at hperm

/-- If something waits for each attempt of a kind, and what is closed was waited for,
then only what is launched has to be waited for in addition. -/
theorem apply_waiting (h : s.Sound)
    (hwaiting : ((s.apply op).2.closedIds ++ waiting).Perm (s.inFlight.filter p)) :
    ((s.apply op).1.inFlight.filter p).Perm (waiting ++ (s.apply op).2.launchedIds.filter p) := by
  have hclosed : (s.apply op).2.closedIds.filter p = (s.apply op).2.closedIds :=
    List.filter_eq_self.mpr fun id hid =>
      (List.mem_filter.mp (hwaiting.mem_iff.mp (List.mem_append_left _ hid))).2
  have hperm := apply_inFlight_filter h op p
  rw [hclosed] at hperm
  refine (List.perm_append_left_iff (s.apply op).2.closedIds).mp ?_
  calc
    (s.apply op).2.closedIds ++ (s.apply op).1.inFlight.filter p
      ~ (s.apply op).1.inFlight.filter p ++ (s.apply op).2.closedIds := List.perm_append_comm
    _ ~ s.inFlight.filter p ++ (s.apply op).2.launchedIds.filter p := hperm
    _ ~ ((s.apply op).2.closedIds ++ waiting) ++ (s.apply op).2.launchedIds.filter p :=
      hwaiting.symm.append_right _
    _ ~ (s.apply op).2.closedIds ++ (waiting ++ (s.apply op).2.launchedIds.filter p) :=
      List.Perm.of_eq (List.append_assoc _ _ _)

/-- What is not waited for is not closed. -/
theorem apply_others (h : s.Sound)
    (hwaiting : ((s.apply op).2.closedIds ++ waiting).Perm (s.inFlight.filter p))
    (apart : ∀ id, p id = true → q id = false) :
    ((s.apply op).1.inFlight.filter q).Perm
      (s.inFlight.filter q ++ (s.apply op).2.launchedIds.filter q) := by
  have hclosed : (s.apply op).2.closedIds.filter q = [] := by
    refine List.filter_eq_nil_iff.mpr fun id hid => ?_
    rw [apart id (List.mem_filter.mp (hwaiting.mem_iff.mp (List.mem_append_left _ hid))).2]
    exact Bool.false_ne_true
  have hperm := apply_inFlight_filter h op q
  rwa [hclosed, List.append_nil] at hperm

theorem apply_room (h : s.Sound)
    (hwaiting : ((s.apply op).2.closedIds ++ waiting).Perm (s.inFlight.filter p)) :
    waiting.length + (s.apply op).2.launched.length ≤ (s.apply op).1.inFlight.length := by
  have hbefore := hwaiting.length_eq.trans_le (List.length_filter_le _ _)
  have hafter := ((apply_changes h op).inFlight h).length_eq
  rw [List.length_append] at hbefore
  rw [List.length_append, List.length_append, Step.launchedIds, List.length_map] at hafter
  omega

end Schedule

/-! ## Calls -/

/-- The messages that wait in a session. -/
def Session.pending (session : Session Rehearsal) : List Message :=
  session.backlog ++ session.world.channel

/-- The state of a rehearsal in which the messages `pending` wait. -/
structure Rehearsed (task : TaskSpec) (options : SchedulerOptions) (script : Script)
    (supervisor : Supervisor) (pending : List Message) (world : Rehearsal) : Prop where
  reachable : Reachable task options supervisor.schedule
  scripted : world.script = script
  staysOpen : world.staysOpen = true
  going : world.atStandstill = false
  foretold : ∀ message ∈ pending, message = .shutdown ∨ message.Foretold script.prediction
  /-- One message for each attempt in flight that is heard of. -/
  waiting : pending.filterMap (·.id?) ~
    supervisor.schedule.inFlight.filter (script.heard supervisor.isDecided)
  room : task.processes.length + pending.count .shutdown ≤ world.places
  reported : supervisor.schedule.Reported script.prediction.Foretells
  hanging : supervisor.isDecided = false →
    world.hung ~ supervisor.schedule.inFlight.filter script.isSilent
  unstopped : supervisor.isDecided = false → world.stopped = []

/-- The operation that a call comes to at the next reading of the clock. -/
def Session.operation (make : Instant → Call) (world : Rehearsal) : Operation :=
  (make world.readClock.1).operation

/-- What that operation does. -/
def Session.stepBy (session : Session Rehearsal) (make : Instant → Call) (world : Rehearsal) :
    Schedule × Step :=
  session.supervisor.schedule.apply (Session.operation make world)

/-- A call that is to be made on the supervisor of a session, for the messages `taken`,
one at most. -/
structure Upcoming (task : TaskSpec) (options : SchedulerOptions) (script : Script)
    (session : Session Rehearsal) (make : Instant → Call) (taken : List Message)
    (world : Rehearsal) : Prop where
  before : Rehearsed task options script session.supervisor
    (taken ++ (session.backlog ++ world.channel)) world
  starts : ∀ now later, make now = .start later → session.supervisor.statuses = []
  closed : (session.stepBy make world).2.closedIds = taken.filterMap (·.id?)
  foretold : ∀ id report now, Session.operation make world = .complete id report now →
    script.prediction.Foretells id report

/-- What is left of a call once it is made: the balance, the shutdowns that waited,
and the uptime. -/
structure Called (task : TaskSpec) (options : SchedulerOptions) (script : Script)
    (session : Session Rehearsal) (make : Instant → Call) (world : Rehearsal) : Prop where
  rehearsed : Rehearsed task options script (session.call environment make world).supervisor
    (session.call environment make world).pending (session.call environment make world).world
  shutdowns : (session.call environment make world).pending.count .shutdown =
    (session.backlog ++ world.channel).count .shutdown
  uptime : (session.call environment make world).world.uptime = world.uptime

/-- What is still to be done: the attempts that can be made yet, those in flight, and the
shutdowns that wait. -/
def Supervisor.left (supervisor : Supervisor) (pending : List Message) : Nat :=
  supervisor.schedule.task.allowance - supervisor.schedule.runIds.length +
    supervisor.schedule.inFlight.length + pending.count .shutdown

/-- A message is about an attempt or is a shutdown. -/
theorem length_messages (messages : List Message) :
    messages.length = (messages.filterMap (·.id?)).length + messages.count .shutdown := by
  induction messages with
  | nil => rfl
  | cons message rest ih =>
    cases message <;> simp [List.filterMap_cons, ih] <;> omega

namespace Upcoming

variable {task : TaskSpec} {options : SchedulerOptions} {script : Script}
  {session : Session Rehearsal} {make : Instant → Call} {taken : List Message}
  {world : Rehearsal}

theorem start {supervisor : Supervisor} (h : supervisor.Fresh)
    (before : Rehearsed task options script supervisor world.channel world) :
    Upcoming task options script ⟨supervisor, [], none, world⟩ .start [] world where
  before := before
  starts _ _ _ := h.empty
  closed := by
    rw [Session.stepBy, Step.closedIds,
      apply_closings_eq_nil h.sound fun _ _ _ hcall => by cases hcall]
    rfl
  foretold _ _ _ hcall := by cases hcall

theorem tell {message : Message}
    (before : Rehearsed task options script session.supervisor
      (message :: (session.backlog ++ world.channel)) world) :
    Upcoming task options script session (.tell message) [message] world where
  before := before
  starts _ _ hcall := by cases hcall
  closed := by
    rcases before.foretold message List.mem_cons_self with rfl | hforetold
    · exact apply_cancel_closedIds before.reachable.sound
    · obtain ⟨id, report, hid, hoperation, _⟩ := hforetold.exists_complete world.readClock.1
      have hmem : id ∈ session.supervisor.schedule.inFlight := by
        refine (List.mem_filter.mp (before.waiting.mem_iff.mp ?_)).1
        exact List.mem_filterMap.mpr ⟨message, List.mem_cons_self, hid⟩
      rw [Session.stepBy, Session.operation, Call.operation, hoperation,
        apply_complete_closedIds before.reachable.sound hmem]
      simp [hid]
  foretold id report now hcall := by
    rcases before.foretold message List.mem_cons_self with rfl | hforetold
    · cases hcall
    · obtain ⟨other, completion, _, hoperation, hreport⟩ :=
        hforetold.exists_complete world.readClock.1
      rw [Session.operation, Call.operation, hoperation] at hcall
      cases hcall
      exact hreport

/-! ### What a call comes to -/

/-- New messages join the others, refusals in the backlog and the rest in the channel. -/
theorem pending_perm {ids stopped : List AttemptId} {sent : List Message}
    (hcarried : Carried world.readClock.2 ids stopped sent (environment.carryOut
      (session.supervisor.apply (make world.readClock.1)).2 world.readClock.2)) :
    (session.call environment make world).pending ~
      (session.backlog ++ world.channel) ++ ((environment.carryOut
        (session.supervisor.apply (make world.readClock.1)).2 world.readClock.2).1 ++ sent) := by
  have hchannel : (session.call environment make world).world.channel = world.channel ++ sent :=
    hcarried.onward.channel
  rw [Session.pending, hchannel]
  change (session.backlog ++ _) ++ (world.channel ++ sent) ~ _
  rw [List.append_assoc, List.append_assoc]
  exact (List.perm_append_comm_assoc _ _ _).append_left _

section

variable (due : Upcoming task options script session make taken world)

include due

theorem schedule_eq : (session.call environment make world).supervisor.schedule =
    (session.stepBy make world).1 :=
  (session.supervisor.apply_operation (make world.readClock.1) (due.starts _)).1

theorem commands_eq : (session.supervisor.apply (make world.readClock.1)).2.commands =
    (session.stepBy make world).2.commands :=
  (session.supervisor.apply_operation (make world.readClock.1) (due.starts _)).2

theorem reachable : Reachable task options (session.stepBy make world).1 :=
  due.before.reachable.after [Session.operation make world]

theorem script_eq : world.readClock.2.script = script := due.before.scripted

theorem waiting :
    (session.stepBy make world).2.closedIds ++
      (session.backlog ++ world.channel).filterMap (·.id?) ~
        session.supervisor.schedule.inFlight.filter
          (script.heard session.supervisor.schedule.isDecided) := by
  rw [due.closed, ← List.filterMap_append]
  exact due.before.waiting

/-- There is room in the channel for what waits and for what is in flight besides. -/
theorem room_of_le {more : Nat}
    (h : ((session.backlog ++ world.channel).filterMap (·.id?)).length + more ≤
      (session.stepBy make world).1.inFlight.length) :
    world.channel.length + more ≤ world.places := by
  have hflight := length_inFlight_le due.reachable.sound.coherent
  have hlength := length_messages (session.backlog ++ world.channel)
  have hroom := due.before.room
  have hshutdowns := (List.sublist_append_right taken (session.backlog ++ world.channel)).count_le
    Message.shutdown
  rw [due.reachable.task_eq] at hflight
  rw [List.length_append] at hlength
  omega

/-- Carrying the reaction out keeps the balance if it gives rise to a message for each
attempt that is heard of from then on. -/
theorem rehearsed_of_carried {ids stopped : List AttemptId} {sent : List Message}
    (hcarried : Carried world.readClock.2 ids stopped sent (environment.carryOut
      (session.supervisor.apply (make world.readClock.1)).2 world.readClock.2))
    (hids : (session.backlog ++ world.channel).filterMap (·.id?) ++ ids ~
      (session.stepBy make world).1.inFlight.filter
        (script.heard (session.stepBy make world).1.isDecided))
    (hanging : (session.stepBy make world).1.isDecided = false →
      (session.call environment make world).world.hung ~
        (session.stepBy make world).1.inFlight.filter script.isSilent)
    (unstopped : (session.stepBy make world).1.isDecided = false →
      (session.call environment make world).world.stopped = []) :
    Called task options script session make world := by
  have hschedule := due.schedule_eq
  have hpending := pending_perm hcarried
  have hforetold := hcarried.foretold
  rw [due.script_eq] at hforetold
  -- New messages are about attempts, so that no shutdown is added.
  have hnone : (_ ++ sent).count Message.shutdown = 0 :=
    List.count_eq_zero.mpr fun hmem => hforetold _ hmem
  have hcount : (session.call environment make world).pending.count .shutdown =
      (session.backlog ++ world.channel).count .shutdown := by
    rw [hpending.count_eq, List.count_append, hnone, Nat.add_zero]
  rw [← hschedule] at hids hanging unstopped
  refine ⟨{
    reachable := hschedule ▸ due.reachable
    scripted := hcarried.onward.script.trans due.before.scripted
    staysOpen := hcarried.onward.staysOpen.trans due.before.staysOpen
    going := hcarried.onward.going
    foretold := ?foretold
    waiting := ?waiting
    room := ?room
    reported := ?reported
    hanging := hanging
    unstopped := unstopped }, hcount, hcarried.onward.uptime⟩
  case foretold =>
    intro message hmem
    rcases List.mem_append.mp (hpending.mem_iff.mp hmem) with hold | hnew
    · exact due.before.foretold message (List.mem_append_right _ hold)
    · exact Or.inr (hforetold message hnew)
  case waiting =>
    calc
      (session.call environment make world).pending.filterMap (·.id?)
        ~ (session.backlog ++ world.channel).filterMap (·.id?) ++ (_ ++ sent).filterMap (·.id?) :=
          (hpending.filterMap _).trans (List.Perm.of_eq List.filterMap_append)
      _ ~ (session.backlog ++ world.channel).filterMap (·.id?) ++ ids := hcarried.ids.append_left _
      _ ~ _ := hids
  case room =>
    have hshutdowns := (List.sublist_append_right taken (session.backlog ++ world.channel)).count_le
      Message.shutdown
    have hplaces : (session.call environment make world).world.places = world.places :=
      hcarried.onward.places
    rw [hcount, hplaces]
    exact (Nat.add_le_add_left hshutdowns _).trans due.before.room
  case reported =>
    rw [hschedule]
    exact (apply_changes due.before.reachable.sound _).reported due.before.reachable.sound
      due.foretold due.before.reported

/-- After the decision a call asks for nothing. -/
theorem call_late (decided : session.supervisor.schedule.isDecided = true) :
    Called task options script session make world ∧
      (session.call environment make world).world.stopped = world.stopped := by
  have hsound := due.before.reachable.sound
  have hsilent := (apply_aftermath hsound (Option.isSome_iff_ne_none.mp decided)
    (Session.operation make world)).silent
  have hids : (session.stepBy make world).2.launchedIds = [] :=
    List.map_eq_nil_iff.mpr hsilent.launched
  have hafter : (session.stepBy make world).1.isDecided = true := by
    rw [Session.stepBy, apply_isDecided hsound, decided, Bool.true_or]
  have hbalance := apply_waiting hsound due.waiting
  obtain ⟨sent, hcarried, _⟩ := carryOut_launches world.readClock.2 due.commands_eq
    hsilent.toStop due.before.going (due.room_of_le (apply_room hsound due.waiting))
  refine ⟨due.rehearsed_of_carried hcarried ?_ ?_ ?_, hcarried.stopped.trans (List.append_nil _)⟩
  · rw [← Session.stepBy, hids, List.filter_nil, decided] at hbalance
    rw [hids, List.filter_nil, hafter]
    exact hbalance.symm
  · rw [hafter]
    exact fun hfalse => by cases hfalse
  · rw [hafter]
    exact fun hfalse => by cases hfalse

/-- Before the decision a call that stops nothing launches what is launched. -/
theorem call_launches (undecided : session.supervisor.schedule.isDecided = false)
    (unfailed : ∀ reason, (session.stepBy make world).2.decision ≠ some (.failed reason))
    (unstopping : (session.stepBy make world).2.toStop = []) :
    Called task options script session make world ∧
      (session.call environment make world).world.stopped = [] ∧
      ((session.stepBy make world).1.isDecided = true →
        (session.stepBy make world).1.inFlight = []) := by
  have hsound := due.before.reachable.sound
  have hbalance := apply_waiting hsound due.waiting
  have hothers := apply_others (q := script.isSilent) hsound due.waiting
    (by simp [undecided, Script.heard_undecided])
  rw [← Session.stepBy, undecided] at hbalance
  obtain ⟨sent, hcarried, hhung⟩ := carryOut_launches world.readClock.2 due.commands_eq
    unstopping due.before.going (due.room_of_le (apply_room hsound due.waiting))
  rw [due.script_eq] at hcarried hhung
  have hstopped : (session.call environment make world).world.stopped = [] := by
    refine (hcarried.stopped.trans (List.append_nil _)).trans (due.before.unstopped undecided)
  -- A task that does not fail succeeds when it is decided, with nothing in flight.
  have hdrained : (session.stepBy make world).1.isDecided = true →
      (session.stepBy make world).1.inFlight = [] := by
    intro hdecided
    obtain ⟨decision, hmade⟩ := Option.isSome_iff_exists.mp hdecided
    have hstep := apply_decision hsound (Session.operation make world)
    rw [isDecided_eq_false.mp undecided, Option.none_or] at hstep
    cases decision with
    | success => exact due.reachable.inFlight_eq_nil hmade
    | failed reason => exact absurd (hstep.symm.trans hmade) (unfailed reason)
  refine ⟨due.rehearsed_of_carried hcarried ?_ ?_ ?_, hstopped, hdrained⟩
  · rw [← Script.heard_undecided]
    refine hbalance.symm.trans ?_
    cases hdecided : (session.stepBy make world).1.isDecided with
    | false => exact .refl _
    | true =>
      rw [hdrained hdecided]
      exact .refl _
  · intro _
    refine hhung.trans ?_
    exact ((due.before.hanging undecided).append_right _).trans hothers.symm
  · exact fun _ => hstopped

theorem call_stops (undecided : session.supervisor.schedule.isDecided = false)
    (decided : (session.stepBy make world).1.isDecided = true)
    (unlaunching : (session.stepBy make world).2.launched = [])
    (stopping : (session.stepBy make world).2.toStop = (session.stepBy make world).1.inFlight) :
    Called task options script session make world ∧
      (session.call environment make world).world.stopped =
        (session.stepBy make world).1.inFlight := by
  have hsound := due.before.reachable.sound
  have hids : (session.stepBy make world).2.launchedIds = [] := List.map_eq_nil_iff.mpr unlaunching
  have hbalance := apply_waiting hsound due.waiting
  have hothers := apply_others (q := script.isSilent) hsound due.waiting
    (by simp [undecided, Script.heard_undecided])
  rw [← Session.stepBy, hids, List.filter_nil, List.append_nil] at hbalance hothers
  rw [undecided, Script.heard_undecided] at hbalance
  -- What hangs is what is silent among the attempts in flight.
  have hhung : world.hung ~ (session.stepBy make world).1.inFlight.filter script.isSilent :=
    (due.before.hanging undecided).trans hothers.symm
  have hsame : (session.stepBy make world).1.inFlight.filter (· ∈ world.readClock.2.hung) =
      (session.stepBy make world).1.inFlight.filter script.isSilent := by
    refine List.filter_congr fun id hid => ?_
    change decide (id ∈ world.hung) = _
    rw [Bool.eq_iff_iff, decide_eq_true_iff, hhung.mem_iff, List.mem_filter, and_iff_right hid]
  obtain ⟨sent, hcarried⟩ := carryOut_stops world.readClock.2 due.commands_eq unlaunching
    (stopping ▸ inFlight_nodup due.reachable.sound.coherent) due.before.going
    (fun id hid => by
      rw [due.script_eq]
      exact (List.mem_filter.mp (hhung.mem_iff.mp hid)).2)
    (by
      rw [stopping, hsame]
      refine due.room_of_le ?_
      rw [← hbalance.length_eq, Nat.add_comm]
      exact (List.length_eq_length_filter_add _).ge)
  rw [stopping, hsame, due.script_eq] at hcarried
  refine ⟨due.rehearsed_of_carried hcarried ?_ ?_ ?_, ?_⟩
  · rw [decided]
    exact (hbalance.symm.append_right _).trans (script.heard_perm _)
  · rw [decided]
    exact fun hfalse => by cases hfalse
  · rw [decided]
    exact fun hfalse => by cases hfalse
  · refine hcarried.stopped.trans ?_
    rw [show world.readClock.2.stopped = [] from due.before.unstopped undecided, List.nil_append]

/-- A call keeps the balance. Attempts are stopped by the decision only, and then all
that are in flight. -/
theorem called : Called task options script session make world ∧
    (session.supervisor.schedule.isDecided = true →
      (session.call environment make world).world.stopped = world.stopped) ∧
    (session.supervisor.schedule.isDecided = false →
      (session.stepBy make world).1.isDecided = true →
        (session.call environment make world).world.stopped =
          (session.stepBy make world).1.inFlight) := by
  have hsound := due.before.reachable.sound
  cases hbefore : session.supervisor.schedule.isDecided with
  | true =>
    obtain ⟨hcalled, hstopped⟩ := due.call_late hbefore
    exact ⟨hcalled, fun _ => hstopped, fun hfalse => by cases hfalse⟩
  | false =>
    cases apply_stops hsound (Session.operation make world) with
    | all reason decision launched toStop =>
      have decided : (session.stepBy make world).1.isDecided = true := by
        rw [Session.stepBy, apply_isDecided hsound, decision, Option.isSome_some, Bool.or_true]
      obtain ⟨hcalled, hstopped⟩ := due.call_stops hbefore decided launched toStop
      exact ⟨hcalled, fun hfalse => (by cases hfalse), fun _ _ => hstopped⟩
    | none unfailed toStop =>
      obtain ⟨hcalled, hstopped, hdrained⟩ := due.call_launches hbefore unfailed toStop
      exact ⟨hcalled, fun hfalse => (by cases hfalse), fun _ decided =>
        hstopped.trans (hdrained decided).symm⟩

/-- What a call was made for is done with. -/
theorem left_called :
    (session.call environment make world).supervisor.left
        (session.call environment make world).pending + taken.length =
      session.supervisor.left (taken ++ (session.backlog ++ world.channel)) := by
  have hsound := due.before.reachable.sound
  have hcount := apply_count hsound (Session.operation make world)
  have hbefore := hsound.coherent.runIds_length_le
  have hafter := due.reachable.sound.coherent.runIds_length_le
  have hclosed := congrArg List.length due.closed
  have htaken := length_messages taken
  rw [Step.closedIds, List.length_map] at hclosed
  rw [due.before.reachable.task_eq] at hbefore
  rw [due.reachable.task_eq] at hafter
  have hsplit : (taken ++ (session.backlog ++ world.channel)).count .shutdown =
      taken.count .shutdown + (session.backlog ++ world.channel).count .shutdown :=
    List.count_append
  rw [Supervisor.left, Supervisor.left, due.schedule_eq, due.called.1.shutdowns, hsplit,
    due.before.reachable.task_eq, due.reachable.task_eq]
  simp only [Session.stepBy] at hclosed hafter ⊢
  omega

end

end Upcoming

end Overseer
