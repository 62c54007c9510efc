import Overseer.Proofs.Rehearsal.Performance

/-!
# What a drain leaves open

The decision of a performance stops everything in flight if the task has failed, and
comes with nothing in flight if it has succeeded. From then on only attempts end that
are heard of: all of them if the script reports stops, and otherwise all but the silent
ones, whose runs stay open until the drain timeout ends the wait.

Results:
1. `Draining.outset`, `Draining.round`: from the decision to the end.
2. `rehearsal_drain`: what a performance with hanging attempts comes to.
-/

namespace Overseer

open Schedule Rehearsal Session
open scoped List

/-! ## The decision -/

namespace Session

variable {World : Type} {env : Environment World} {drainTimeout : Span}
  {session next final : Session World} {rounds : Nat}

/-- The session as it is when the task is decided; at its end if that never happens. -/
def atDecision (env : Environment World) (drainTimeout : Span) :
    Nat → Session World → Session World
  | 0, session => session
  | rounds + 1, session =>
    if session.supervisor.isDecided then session
    else
      match session.step env drainTimeout with
      | (none, next) => next.atDecision env drainTimeout rounds
      | (some _, final) => final

theorem atDecision_of_decided (decided : session.supervisor.isDecided = true) (rounds : Nat) :
    session.atDecision env drainTimeout rounds = session := by
  cases rounds with
  | zero => rfl
  | succ rounds => rw [atDecision, if_pos decided]

theorem atDecision_step (undecided : session.supervisor.isDecided = false)
    (hstep : session.step env drainTimeout = (none, next)) :
    session.atDecision env drainTimeout (rounds + 1) = next.atDecision env drainTimeout rounds := by
  rw [atDecision, if_neg (by simp [undecided]), hstep]

theorem atDecision_end {ending : Ending} (undecided : session.supervisor.isDecided = false)
    (hstep : session.step env drainTimeout = (some ending, final)) :
    session.atDecision env drainTimeout (rounds + 1) = final := by
  rw [atDecision, if_neg (by simp [undecided]), hstep]

end Session

/-! ## From the decision on -/

/-- A performance whose task was decided in `decisive`. -/
structure Draining (task : TaskSpec) (options : SchedulerOptions) (script : Script)
    (decisive : Schedule) (session : Session Rehearsal) : Prop where
  reachable : Reachable task options decisive
  same : session.supervisor.schedule.decision = decisive.decision
  stopped : session.world.stopped = decisive.inFlight
  recorded : ∀ id ∈ decisive.inFlight, id ∈ session.supervisor.schedule.runIds
  /-- Nothing is launched any more. -/
  left : ∀ id ∈ session.supervisor.schedule.inFlight, id ∈ decisive.inFlight
  /-- What is silent stays in flight if nobody hears of its stop. -/
  silent : script.reportsStops = false →
    session.supervisor.schedule.inFlight.filter script.isSilent ~
      decisive.inFlight.filter script.isSilent

namespace Draining

variable {task : TaskSpec} {options : SchedulerOptions} {script : Script} {decisive : Schedule}
  {drainTimeout : Span} {session next : Session Rehearsal}

theorem outset (h : Performing task options script session)
    (stopped : session.world.stopped = session.supervisor.schedule.inFlight) :
    Draining task options script session.supervisor.schedule session where
  reachable := h.rehearsed.reachable
  same := rfl
  stopped := stopped
  recorded _ hid := mem_runIds_of_inFlight hid h.rehearsed.reachable.sound.coherent
  left _ hid := hid
  silent _ := .refl _

theorem round (h : Draining task options script decisive session)
    (performing : Performing task options script session)
    (decided : session.supervisor.schedule.isDecided = true)
    (round : Round environment drainTimeout session (none, next)) :
    Draining task options script decisive next := by
  obtain ⟨caller, message, world, rfl, hsame, _, hstopped, _, due⟩ :=
    performing.round_upcoming round
  have hsound := performing.rehearsed.reachable.sound
  have hmade := Option.isSome_iff_ne_none.mp decided
  have haftermath := apply_aftermath hsound hmade (Session.operation (.tell message) world)
  have hlaunched : (caller.stepBy (.tell message) world).2.launchedIds = [] := by
    rw [stepBy, hsame]
    exact List.map_eq_nil_iff.mpr haftermath.silent.launched
  rw [← hsame] at hsound decided
  refine ⟨h.reachable, ?_, ?_, fun id hid => ?_, fun id hid => ?_, fun hmute => ?_⟩
  · rw [due.schedule_eq, stepBy, hsame,
      (haftermath.frozen performing.rehearsed.reachable.sound).decision]
    exact h.same
  · rw [due.called.2.1 decided, hstopped]
    exact h.stopped
  · have hperm := (apply_changes hsound (Session.operation (.tell message) world)).runIds hsound
    rw [due.schedule_eq, stepBy]
    refine hperm.mem_iff.mpr (List.mem_append_left _ ?_)
    rw [hsame]
    exact h.recorded id hid
  · have hperm := (apply_changes hsound (Session.operation (.tell message) world)).inFlight hsound
    rw [← stepBy, hlaunched, List.append_nil] at hperm
    rw [due.schedule_eq] at hid
    exact h.left id (hsame ▸ hperm.mem_iff.mp (List.mem_append_left _ hid))
  · have hothers := apply_others (q := script.isSilent) hsound due.waiting
      (by simp [Script.heard, hmute])
    rw [← stepBy, hlaunched, List.filter_nil, List.append_nil] at hothers
    rw [due.schedule_eq]
    refine hothers.trans ?_
    rw [hsame]
    exact h.silent hmute

/-- The call that decides the task. -/
theorem begun (performing : Performing task options script session)
    (undecided : session.supervisor.schedule.isDecided = false)
    (round : Round environment drainTimeout session (none, next))
    (decided : next.supervisor.schedule.isDecided = true) :
    Draining task options script next.supervisor.schedule next := by
  have hnext := (performing.round round).1
  obtain ⟨caller, message, world, rfl, hsame, _, _, _, due⟩ := performing.round_upcoming round
  refine .outset hnext ?_
  rw [due.schedule_eq] at decided ⊢
  exact due.called.2.2 (hsame ▸ undecided) decided

end Draining

/-! ## The end -/

namespace Draining

variable {task : TaskSpec} {options : SchedulerOptions} {script : Script} {decisive : Schedule}
  {session : Session Rehearsal}

/-- Nothing is left in flight if all stops are heard of. -/
theorem drained_of_reports {s : Schedule} (hreports : script.reportsStops = true)
    (unheard : ∀ id ∈ s.inFlight, script.heard true id = false) : s.inFlight = [] := by
  refine List.eq_nil_iff_forall_not_mem.mpr fun id hid => ?_
  have hfalse := unheard id hid
  simp [Script.heard, hreports] at hfalse

/-- When nothing more is heard of, the runs that are open are those of silent attempts that
were in flight at the decision, and of none if stops are reported. -/
theorem openIds_perm (h : Draining task options script decisive session)
    (sound : session.supervisor.schedule.Sound)
    (unheard : ∀ id ∈ session.supervisor.schedule.inFlight, script.heard true id = false) :
    session.supervisor.result.openIds ~
      if script.reportsStops then [] else decisive.inFlight.filter script.isSilent := by
  refine (Supervisor.openIds_perm sound).trans ?_
  cases hreports : script.reportsStops with
  | true =>
    rw [drained_of_reports hreports unheard]
    exact .refl _
  | false =>
    have hall : session.supervisor.schedule.inFlight.filter script.isSilent =
        session.supervisor.schedule.inFlight := by
      refine List.filter_eq_self.mpr fun id hid => ?_
      have hfalse := unheard id hid
      simpa [Script.heard, hreports] using hfalse
    rw [← hall]
    exact h.silent hreports

/-- The run of a silent attempt whose stop is reported has failed without an exit code. -/
theorem closed_silent (h : Draining task options script decisive session)
    (sound : session.supervisor.schedule.Sound)
    (hreported : session.supervisor.schedule.Reported script.prediction.Foretells)
    (drained : session.supervisor.schedule.inFlight = []) {id : AttemptId}
    (hid : id ∈ decisive.inFlight) (silent : script.isSilent id = true) :
    ∃ record ∈ session.supervisor.result.processes, ∃ run ∈ record.2,
      run.id = id ∧ run.state = .failed ∧ run.exitCode? = some (-1) := by
  obtain ⟨life, hmem, hids⟩ := List.mem_flatMap.mp (h.recorded id hid)
  obtain ⟨run, hrun, rfl⟩ := List.mem_map.mp hids
  have hrecorded : run ∈ session.supervisor.schedule.records.flatMap (·.2) :=
    (recordedRuns_perm _).mem_iff.mpr (List.mem_flatMap.mpr ⟨life, hmem, hrun⟩)
  obtain ⟨report, met, hphase, hforetells⟩ :=
    sound.coherent.ended_of_drained drained hreported hrecorded
  have houtcome : report.outcome = .noExitCode :=
    hforetells.trans (Script.prediction_of_silent silent)
  obtain ⟨record, hrecord, hrun⟩ := List.mem_flatMap.mp hrecorded
  refine ⟨record, hrecord, run, hrun, rfl, ?_, ?_⟩
  · simp only [Run.state, hphase, houtcome]
    rfl
  · simp only [Run.exitCode?, hphase, houtcome]
    rfl

end Draining

/-- A performance that is decided in `decisive`, before the rounds that are left or in the
course of them. -/
structure Followed (task : TaskSpec) (options : SchedulerOptions) (script : Script)
    (drainTimeout : Span) (decisive : Schedule) (rounds : Nat) (session : Session Rehearsal) :
    Prop where
  undecided : session.supervisor.schedule.isDecided = false →
    (session.atDecision environment drainTimeout rounds).supervisor.schedule = decisive
  decided : session.supervisor.schedule.isDecided = true →
    Draining task options script decisive session

theorem Followed.round {task : TaskSpec} {options : SchedulerOptions} {script : Script}
    {drainTimeout : Span} {decisive : Schedule} {rounds : Nat} {session next : Session Rehearsal}
    (h : Followed task options script drainTimeout decisive (rounds + 1) session)
    (performing : Performing task options script session)
    (hstep : session.step environment drainTimeout = (none, next)) :
    Followed task options script drainTimeout decisive rounds next := by
  have round := hstep ▸ step_round session
  cases hbefore : session.supervisor.schedule.isDecided with
  | true =>
    have hdraining := (h.decided hbefore).round performing hbefore round
    refine ⟨fun hnot => ?_, fun _ => hdraining⟩
    rw [isDecided, hdraining.same, ← (h.decided hbefore).same, ← isDecided, hbefore] at hnot
    cases hnot
  | false =>
    have hdecisive := h.undecided hbefore
    rw [atDecision_step hbefore hstep] at hdecisive
    refine ⟨fun _ => hdecisive, fun hafter => ?_⟩
    rw [← hdecisive, atDecision_of_decided hafter]
    exact .begun performing hbefore round hafter

/-- A performance of fewer processes than the channel has places comes to an end, with or
without a shutdown at the outset. It waits for ever only if the task is undecided and
everything in flight hangs, and it breaks off only if the drain timeout would end beyond all
times and the decision leaves something in flight. Otherwise there is a result with the
status of the decision. Its open runs are those of the attempts that hung when the task was
decided, unless the script reports stops: then these have failed without an exit code. The
attempts that were stopped are those in flight at the decision, in the order of declaration
and none twice, and none at all if the task has succeeded. -/
theorem rehearsal_drain (task : TaskSpec) (options : SupervisorOptions) (script : Script)
    (shutdown : Bool) (uptime : Span) (room : task.processes.length < 1024) :
    let queued := if shutdown then [Message.shutdown] else []
    let outset := Session.start environment (Supervisor.initial task options.scheduling)
      (.ofScript script queued uptime)
    let decisive := (outset.atDecision environment options.drainTimeout
      (rounds task queued.length)).supervisor.schedule
    ∃ ending final, Rehearsal.run task options (.ofScript script queued uptime) =
        (some ending, final) ∧
      (ending = .hung ∧ decisive.decision = none ∧
          (∀ id ∈ decisive.inFlight, script.isSilent id = true) ∨
        ending = .brokenOff ∧ Span.lastUptime.nanos < uptime.nanos + options.drainTimeout.nanos ∧
          decisive.decision ≠ none ∧ decisive.inFlight ≠ [] ∨
        ∃ result first decision later, ending = .finished result ∧
          decisive.decision = some decision ∧
          result.statuses = [⟨.active, first, none⟩, decision.statusEntry later] ∧
          result.status = (decision.statusEntry later).status ∧
          result.status.isTerminal = true ∧
          result.openIds ~
            (if script.reportsStops then [] else decisive.inFlight.filter script.isSilent) ∧
          (script.reportsStops = true → ∀ id ∈ decisive.inFlight, script.isSilent id = true →
            ∃ record ∈ result.processes, ∃ run ∈ record.2,
              run.id = id ∧ run.state = .failed ∧ run.exitCode? = some (-1)) ∧
          final.stopped = decisive.inFlight ∧
          (decisive.inFlight.map (·.process)).Sublist task.processNames ∧
          (result.status = .success → final.stopped = [])) := by
  intro queued outset decisive
  have hqueued : ∀ message ∈ queued, message = .shutdown := by
    cases shutdown <;> simp [queued]
  have hroom : task.processes.length + queued.length ≤ 1024 := by
    cases shutdown <;> simp [queued] <;> omega
  obtain ⟨hstart, hleft, _, huptime, hstopped⟩ :=
    Performing.start task options.scheduling script uptime hqueued hroom
  have hfollowed : Followed task options.scheduling script options.drainTimeout decisive
      (rounds task queued.length) outset := by
    refine ⟨fun _ => rfl, fun decided => ?_⟩
    have hdecisive : decisive = outset.supervisor.schedule :=
      congrArg (·.supervisor.schedule) (atDecision_of_decided decided _)
    rw [hdecisive]
    exact .outset hstart (hstopped decided)
  obtain ⟨left, last, ending, final, hlast, hfollowed, hsame, hstep, hrun⟩ :=
    performing_ends options.drainTimeout (rounds task queued.length) hstart
      (by rw [hleft, rounds_eq]; omega) hfollowed
      fun performing hbefore hstep => hbefore.round performing hstep
  obtain ⟨hsupervisor, hworld, hfate⟩ := hlast.ending (hstep ▸ step_round last)
  refine ⟨ending, final.world, Rehearsal.run_eq hrun, ?_⟩
  have hsound := hlast.rehearsed.reachable.sound
  cases hfate with
  | hung undecided unheard =>
    have hdecisive := hfollowed.undecided undecided
    rw [atDecision_end undecided hstep, hsupervisor] at hdecisive
    refine Or.inl ⟨rfl, ?_, fun id hid => ?_⟩
    · rw [← hdecisive]
      exact isDecided_eq_false.mp undecided
    · have hfalse := unheard id (hdecisive ▸ hid)
      simpa [Script.heard] using hfalse
  | brokenOff decided flying beyond =>
    have hdraining := hfollowed.decided decided
    rw [hsame, huptime] at beyond
    refine Or.inr (Or.inl ⟨rfl, beyond, ?_, fun drained => ?_⟩)
    · rw [← hdraining.same]
      exact Option.isSome_iff_ne_none.mp decided
    · obtain ⟨id, hid⟩ := List.exists_mem_of_ne_nil _ flying
      exact absurd (drained ▸ hdraining.left id hid) List.not_mem_nil
  | concluded decided unheard =>
    have hdraining := hfollowed.decided decided
    obtain ⟨decision, hdecision⟩ := Option.isSome_iff_exists.mp decided
    obtain ⟨first, later, hstatuses, hstatus, hterminal, hsuccess⟩ :=
      hlast.result_of_decided hdecision
    have hnames := inFlight_sublist hdraining.reachable.sound.coherent
    rw [hdraining.reachable.task_eq] at hnames
    refine Or.inr (Or.inr ⟨last.supervisor.result, first, decision, later, rfl,
      hdraining.same.symm.trans hdecision, hstatuses, hstatus, hterminal,
      hdraining.openIds_perm hsound unheard, fun hreports id hid silent => ?_,
      hworld ▸ hdraining.stopped, hnames, fun hsucceeded => ?_⟩)
    · exact hdraining.closed_silent hsound hlast.rehearsed.reported
        (Draining.drained_of_reports hreports unheard) hid silent
    · rw [hworld, hdraining.stopped]
      refine hdraining.reachable.inFlight_eq_nil ?_
      rw [← hdraining.same, hdecision, hsuccess.mp hsucceeded]

/-- With a shutdown at the outset, `first` is in flight at the decision, and its run stays
open if it hangs and no stop is reported. -/
theorem rehearsal_drain_pair :
    let script := { ({} : Script).hang "first" with reportsStops := false }
    TaskSpec.pair.processes.length < 1024 ∧
      ∃ result final, Rehearsal.run .pair {} (.ofScript script [.shutdown] .zero) =
          (some (.finished result), final) ∧
        result.openIds = [⟨"first", 0⟩] ∧ final.stopped = [⟨"first", 0⟩] := by
  intro script
  have room : TaskSpec.pair.processes.length < 1024 := by decide
  obtain ⟨ending, final, hrun, hend⟩ := rehearsal_drain .pair {} script true .zero room
  rcases hend with ⟨_, hnone, _⟩ | ⟨_, hbeyond, _⟩ |
    ⟨result, _, _, _, rfl, _, _, _, _, hopen, _, hstopped, _, _⟩
  · exact absurd hnone (by decide)
  · exact absurd hbeyond (by decide)
  · exact ⟨room, result, final, hrun, List.perm_singleton.mp (hopen.trans (.of_eq (by decide))),
      hstopped.trans (by decide)⟩

end Overseer
