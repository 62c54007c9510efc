import Overseer.Proofs.Rehearsal.Course

/-!
# Performances

A performance is a rehearsal that is carried out from its start, with nothing but
shutdowns waiting at the outset. In each round it hands the oldest message over. It
comes to an end after as many rounds as there are attempts to be made and shutdowns
waiting, and then no message waits any more: nothing is in flight that will be heard
of. Only a drain timeout that ends beyond all times breaks it off before.

Results:
1. `Performing.start`, `Performing.round`: the balance at the outset and in each round.
2. `Performing.ending`: how it ends, and what is left.
3. `performing_ends`: every performance comes to an end.
-/

namespace Overseer

open Schedule Rehearsal Session
open scoped List

/-- What is received from a channel that stays open: the message sent first, if one waits. -/
theorem Rehearsal.receive_eq {rehearsal after : Rehearsal} {reception : Reception}
    (going : rehearsal.atStandstill = false) (staysOpen : rehearsal.staysOpen = true)
    (h : rehearsal.receive = (reception, after)) :
    (∃ message rest, rehearsal.channel = message :: rest ∧ reception = .message message ∧
      after = { rehearsal with channel := rest }) ∨
    rehearsal.channel = [] ∧ after = rehearsal ∧ reception = .silence := by
  rw [receive, if_neg (by simp [going])] at h
  cases hchannel : rehearsal.channel with
  | cons message rest =>
    rw [hchannel] at h
    cases h
    exact Or.inl ⟨message, rest, rfl, rfl, rfl⟩
  | nil =>
    rw [hchannel, staysOpen] at h
    cases h
    exact Or.inr ⟨rfl, rfl, rfl⟩

/-- A performance that is under way. -/
structure Performing (task : TaskSpec) (options : SchedulerOptions) (script : Script)
    (session : Session Rehearsal) : Prop where
  orderly : session.Orderly
  rehearsed : Rehearsed task options script session.supervisor session.pending session.world
  started : ∃ first calls,
    session.supervisor = (Supervisor.initial task options).after (.start first :: calls)

namespace Performing

variable {task : TaskSpec} {options : SchedulerOptions} {script : Script}
  {uptime drainTimeout : Span} {session next : Session Rehearsal}

/-! ## The outset -/

theorem outset_rehearsed {queued : List Message} (hqueued : ∀ message ∈ queued, message = .shutdown)
    (room : task.processes.length + queued.length ≤ 1024) :
    Rehearsed task options script (Supervisor.initial task options) queued
      (ofScript script queued uptime) where
  reachable := ⟨[], rfl⟩
  scripted := rfl
  staysOpen := rfl
  going := rfl
  foretold message hmem := Or.inl (hqueued message hmem)
  waiting := by
    have hnone : queued.filterMap (·.id?) = [] :=
      List.filterMap_eq_nil_iff.mpr fun message hmem => by rw [hqueued message hmem]; rfl
    rw [hnone, Supervisor.initial, initial_inFlight]
    exact .refl _
  room := (Nat.add_le_add_left (List.count_le_length) _).trans room
  reported := initial_reported _
  hanging _ := by
    rw [Supervisor.initial, initial_inFlight]
    exact .refl _
  unstopped _ := rfl

theorem start (task : TaskSpec) (options : SchedulerOptions) (script : Script) (uptime : Span)
    {queued : List Message} (hqueued : ∀ message ∈ queued, message = .shutdown)
    (room : task.processes.length + queued.length ≤ 1024) :
    let session := Session.start environment (Supervisor.initial task options)
      (ofScript script queued uptime)
    Performing task options script session ∧
      session.supervisor.left session.pending = task.allowance + queued.length ∧
      session.pending.count .shutdown = queued.length ∧ session.world.uptime = uptime ∧
      (session.supervisor.schedule.isDecided = true →
        session.world.stopped = session.supervisor.schedule.inFlight) := by
  have hfresh := Supervisor.initial_fresh task options
  have horderly : (Session.start environment (Supervisor.initial task options)
      (ofScript script queued uptime)).Orderly := start_orderly hfresh _
  have due : Upcoming task options script
      ⟨Supervisor.initial task options, [], none, ofScript script queued uptime⟩ .start []
      (ofScript script queued uptime) := .start hfresh (outset_rehearsed hqueued room)
  have hleft := due.left_called
  rw [List.length_nil, Nat.add_zero, List.nil_append, List.nil_append] at hleft
  have hshutdowns : queued.count .shutdown = queued.length :=
    List.count_eq_length.mpr fun message hmem => (hqueued message hmem).symm
  have houtset : (Supervisor.initial task options).left queued =
      task.allowance + queued.length := by
    rw [Supervisor.left, hshutdowns, Supervisor.initial, initial_runIds, initial_inFlight]
    rfl
  rw [start_eq] at horderly ⊢
  exact ⟨⟨horderly, due.called.1.rehearsed, (ofScript script queued uptime).readClock.1, [], rfl⟩,
    hleft.trans houtset, due.called.1.shutdowns.trans hshutdowns, due.called.1.uptime,
    due.schedule_eq ▸ due.called.2.2 rfl⟩

/-! ## Rounds -/

/-- A round is a call for the message that waits longest. -/
theorem round_upcoming (h : Performing task options script session)
    (round : Round environment drainTimeout session (none, next)) :
    ∃ (caller : Session Rehearsal) (message : Message) (world : Rehearsal),
      next = caller.call environment (.tell message) world ∧
      caller.supervisor = session.supervisor ∧
      session.pending = message :: (caller.backlog ++ world.channel) ∧
      world.stopped = session.world.stopped ∧ world.uptime = session.world.uptime ∧
      Upcoming task options script caller (.tell message) [message] world := by
  have hbefore := h.rehearsed
  cases round with
  | refused deadline message rest _ _ waiting =>
    have hpending : session.pending = message :: (rest ++ session.world.channel) := by
      rw [pending, waiting, List.cons_append]
    rw [hpending] at hbefore
    exact ⟨{ session with deadline, backlog := rest }, message, session.world, rfl, rfl, hpending,
      rfl, rfl, .tell hbefore⟩
  | received deadline message world _ _ empty reception =>
    rcases receive_eq hbefore.going hbefore.staysOpen reception with
      ⟨first, rest, hchannel, hmessage, rfl⟩ | ⟨_, _, hmessage⟩
    · cases hmessage
      have hpending : session.pending = message :: (session.backlog ++ rest) := by
        rw [pending, empty, hchannel, List.nil_append, List.nil_append]
      rw [hpending] at hbefore
      refine ⟨{ session with deadline }, message, _, rfl, rfl, hpending, rfl, rfl, .tell ?_⟩
      exact ⟨hbefore.reachable, hbefore.scripted, hbefore.staysOpen, hbefore.going,
        hbefore.foretold, hbefore.waiting, hbefore.room, hbefore.reported, hbefore.hanging,
        hbefore.unstopped⟩
    · cases hmessage

theorem round (h : Performing task options script session)
    (round : Round environment drainTimeout session (none, next)) :
    Performing task options script next ∧
      next.supervisor.left next.pending + 1 = session.supervisor.left session.pending ∧
      next.world.uptime = session.world.uptime := by
  have horderly := h.orderly.round round
  obtain ⟨caller, message, world, rfl, hsame, hpending, _, huptime, due⟩ :=
    h.round_upcoming round
  obtain ⟨first, calls, hstarted⟩ := h.started
  have hleft := due.left_called
  rw [List.singleton_append, hsame, ← hpending] at hleft
  refine ⟨⟨horderly, due.called.1.rehearsed, first, calls ++ [.tell message world.readClock.1], ?_⟩,
    hleft, due.called.1.uptime.trans huptime⟩
  rw [call_supervisor, hsame, hstarted, ← List.cons_append, Supervisor.after_append]
  rfl

/-! ## The end -/

/-- The result of a decided task has the start and the decision as its statuses. -/
theorem result_of_decided (h : Performing task options script session) {decision : Decision}
    (hdecision : session.supervisor.schedule.decision = some decision) :
    let result := session.supervisor.result
    ∃ first later, result.statuses = [⟨.active, first, none⟩, decision.statusEntry later] ∧
      result.status = (decision.statusEntry later).status ∧ result.status.isTerminal = true ∧
      (result.status = .success ↔ decision = .success) := by
  obtain ⟨first, calls, hstarted⟩ := h.started
  rw [hstarted] at hdecision ⊢
  exact ⟨first, (Supervisor.initial_fresh task options).result_of_decided hdecision⟩

/-- What a performance at some uptime comes to: it breaks off in the first round after the
decision, or no message waits at the end. Then it is over if the task is decided, and
otherwise waits for ever. -/
inductive Fate (uptime drainTimeout : Span) (script : Script) (supervisor : Supervisor) :
    Ending → Prop
  | brokenOff (decided : supervisor.schedule.isDecided = true)
      (flying : supervisor.schedule.inFlight ≠ [])
      (beyond : Span.lastUptime.nanos < uptime.nanos + drainTimeout.nanos) :
      Fate uptime drainTimeout script supervisor .brokenOff
  | concluded (decided : supervisor.schedule.isDecided = true)
      (unheard : ∀ id ∈ supervisor.schedule.inFlight, script.heard true id = false) :
      Fate uptime drainTimeout script supervisor (.finished supervisor.result)
  | hung (undecided : supervisor.schedule.isDecided = false)
      (unheard : ∀ id ∈ supervisor.schedule.inFlight, script.heard false id = false) :
      Fate uptime drainTimeout script supervisor .hung

theorem ending {final : Session Rehearsal} {ending : Ending}
    (h : Performing task options script session)
    (round : Round environment drainTimeout session (some ending, final)) :
    final.supervisor = session.supervisor ∧ final.world = session.world ∧
      Fate session.world.uptime drainTimeout script session.supervisor ending := by
  have hbefore := h.rehearsed
  cases round with
  | done idle =>
    obtain ⟨decided, drained⟩ := Supervisor.isBusy_eq_false.mp idle
    refine ⟨rfl, rfl, .concluded (Option.isSome_iff_ne_none.mpr decided) ?_⟩
    rw [drained]
    exact fun _ hmem => absurd hmem List.not_mem_nil
  | brokenOff busy unset =>
    obtain ⟨decided, _, hnone⟩ := withDeadline?_eq_none.mp unset
    refine ⟨rfl, rfl, .brokenOff decided (fun drained => ?_) ?_⟩
    · have hidle := Supervisor.isBusy_eq_false.mpr ⟨Option.isSome_iff_ne_none.mp decided, drained⟩
      rw [hidle] at busy
      cases busy
    · exact (Environment.deadline?_eq_none environment).mp hnone
  | silence deadline world _ set empty reception =>
    rcases receive_eq hbefore.going hbefore.staysOpen reception with
      ⟨_, _, _, hmessage, _⟩ | ⟨hchannel, rfl, _⟩
    · cases hmessage
    · have hnone : session.pending = [] := by rw [pending, empty, hchannel, List.nil_append]
      have hwaiting := hbefore.waiting
      rw [hnone, List.filterMap_nil] at hwaiting
      have hunheard (id : AttemptId) (hid : id ∈ session.supervisor.schedule.inFlight) :
          script.heard session.supervisor.schedule.isDecided id = false :=
        Bool.eq_false_iff.mpr (List.filter_eq_nil_iff.mp hwaiting.nil_eq.symm id hid)
      have hdeadline : deadline.isSome = session.supervisor.schedule.isDecided :=
        deadline_isSome h.orderly.decided set
      refine ⟨rfl, rfl, ?_⟩
      rw [hdeadline]
      cases hdecided : session.supervisor.schedule.isDecided with
      | true => exact .concluded hdecided (hdecided ▸ hunheard)
      | false => exact .hung hdecided (hdecided ▸ hunheard)
  | closed deadline world _ _ _ reception | standstill deadline world _ _ _ reception =>
    -- The channel stays open, so that nothing else is received.
    rcases receive_eq hbefore.going hbefore.staysOpen reception with
      ⟨_, _, _, hmessage, _⟩ | ⟨_, _, hmessage⟩ <;> cases hmessage

end Performing

theorem Rehearsal.run_eq {task : TaskSpec} {options : SupervisorOptions} {script : Script}
    {queued : List Message} {uptime : Span} {ending : Option Ending} {final : Session Rehearsal}
    (h : (Session.start environment (Supervisor.initial task options.scheduling)
      (ofScript script queued uptime)).run environment options.drainTimeout
        (rounds task queued.length) = (ending, final)) :
    Rehearsal.run task options (ofScript script queued uptime) = (ending, final.world) := by
  have hchannel : (ofScript script queued uptime).channel = queued := rfl
  rw [Rehearsal.run, supervise, hchannel, h]

/-- When nothing is in flight all recorded runs have ended as was foretold. -/
theorem Schedule.Coherent.ended_of_drained {s : Schedule} {prediction : Prediction} {run : Run}
    (h : s.Coherent) (drained : s.inFlight = []) (hreported : s.Reported prediction.Foretells)
    (hrun : run ∈ s.records.flatMap (·.2)) :
    ∃ report met, run.phase = .ended report met ∧ prediction.Foretells run.id report := by
  obtain ⟨life, hmem, hrun⟩ := List.mem_flatMap.mp ((recordedRuns_perm s).mem_iff.mp hrun)
  cases hphase : run.phase with
  | inFlight now =>
    have hopen := (h.lifecycles life hmem).openAttempt?_of_isOpen hrun
      (by simp [Run.isOpen, hphase])
    have hflight : (⟨life.name, run.id.index⟩ : AttemptId) ∈ s.inFlight :=
      mem_inFlight.mpr ⟨life, hmem, rfl, hopen⟩
    rw [drained] at hflight
    cases hflight
  | ended report met => exact ⟨report, met, rfl, hreported life hmem run hrun report met hphase⟩

/-- A performance comes to an end after as many rounds as there is to do at the outset.
What holds of it with so many rounds left and is kept by each round holds at the end. -/
theorem performing_ends {task : TaskSpec} {options : SchedulerOptions} {script : Script}
    {session : Session Rehearsal} {P : Nat → Session Rehearsal → Prop} (drainTimeout : Span)
    (rounds : Nat) (h : Performing task options script session)
    (enough : session.supervisor.left session.pending < rounds)
    (outset : P rounds session)
    (kept : ∀ {rounds session next}, Performing task options script session →
      P (rounds + 1) session → session.step environment drainTimeout = (none, next) →
        P rounds next) :
    ∃ left last ending final, Performing task options script last ∧ P (left + 1) last ∧
      last.world.uptime = session.world.uptime ∧
      last.step environment drainTimeout = (some ending, final) ∧
      session.run environment drainTimeout rounds = (some ending, final) := by
  obtain ⟨left, last, ending, final, ⟨hlast, _, huptime, hP⟩, hend⟩ := Session.run_ends
    (P := fun rounds now => Performing task options script now ∧
      now.supervisor.left now.pending < rounds ∧ now.world.uptime = session.world.uptime ∧
      P rounds now)
    (fun hzero => Nat.not_lt_zero _ hzero.2.1)
    (fun {rounds now next} hbefore hstep => by
      obtain ⟨hperforming, hleft, huptime, hP⟩ := hbefore
      obtain ⟨hnext, hless, hsame⟩ := hperforming.round (hstep ▸ step_round now)
      exact ⟨hnext, by omega, hsame.trans huptime, kept hperforming hP hstep⟩)
    ⟨h, enough, rfl, outset⟩
  exact ⟨left, last, ending, final, hlast, hP, huptime, hend⟩

end Overseer
