import Overseer.Proofs.Schedule.Finality
import Overseer.Proofs.Supervisor.Ledger
import Overseer.Proofs.Supervisor.Run

/-!
# The event stream as a log

The events that a supervisor reports tell all that its result holds. The two are
written in different places, the events from what each operation announces and the
result from what the schedule keeps. What connects them is the ledger: the events of
a call lead from the ledger of the supervisor before it to the one after it.

Results:
1. `Answer.replay`, `replay_events`: one call, and any number of them.
2. `events_inOrder`: no launch after the decision.
3. `events_complete`: the events of a run and its result.
-/

namespace Overseer

open Schedule

/-! ## Final events -/

namespace Event

def isLaunch : Event → Bool
  | .process transition => transition.isLaunch
  | .task _ => false

/-- Whether the event announces the decision. -/
def isFinal : Event → Bool
  | .process _ => false
  | .task entry => entry.status.isTerminal

/-- An event that announces the decision stands before no launch. -/
def InOrder (earlier later : Event) : Prop := earlier.isFinal = true → later.isLaunch = false

end Event

/-! ## Calls -/

/-- The result as a reader of the events would have it. -/
def TaskResult.ledger (result : TaskResult) : Ledger where
  statuses := result.statuses
  runs p := ((result.runsOf? p).getD []).map (·.summary)

namespace Supervisor

variable {supervisor : Supervisor} {call : Call} {result : Supervisor × Reaction}

/-- What the events up to now tell. -/
def ledger (supervisor : Supervisor) : Ledger where
  statuses := supervisor.statuses
  runs := supervisor.schedule.summaries

theorem result_ledger (h : supervisor.schedule.Coherent) :
    supervisor.result.ledger = supervisor.ledger := by
  have hruns : ∀ p, supervisor.result.ledger.runs p = supervisor.ledger.runs p :=
    fun p => summaries_of_records h p
  exact congrArg (Ledger.mk supervisor.statuses) (funext hruns)

theorem follow_replay {s : Schedule} (h : s.Sound) (op : Operation) (statuses : List StatusEntry)
    (now : Instant) :
    Ledger.replay? ⟨statuses, s.summaries⟩ (follow statuses now (s.apply op)).2.events =
      some (follow statuses now (s.apply op)).1.ledger := by
  rw [follow_events, Ledger.replay?_append, (apply_changes h op).replay h statuses,
    Option.bind_some, Ledger.replay?_statuses]
  rfl

theorem Answer.replay (answer : supervisor.Answer call result) (h : supervisor.schedule.Sound) :
    supervisor.ledger.replay? result.2.events = some result.1.ledger := by
  cases answer with
  | again => rfl
  | begun now fresh follows =>
    rw [follows, Ledger.replay?_cons, ← follow_replay h (.start now) [⟨.active, now, none⟩] now,
      ledger, fresh]
    rfl
  | told message now => exact follow_replay h (message.operation now) supervisor.statuses now

/-! ## No launches at the end -/

theorem follow_isFinal {s : Schedule} (h : s.Sound) {op : Operation}
    {statuses : List StatusEntry} {now : Instant} {event : Event}
    (hevent : event ∈ (follow statuses now (s.apply op)).2.events) (hfinal : event.isFinal = true) :
    (s.apply op).1.decision ≠ none := by
  rw [follow_events] at hevent
  rw [apply_decision h]
  rcases List.mem_append.mp hevent with hmem | hmem
  · obtain ⟨transition, _, rfl⟩ := List.mem_map.mp hmem
    cases hfinal
  · obtain ⟨entry, hentry, rfl⟩ := List.mem_map.mp hmem
    cases hdecision : (s.apply op).2.decision with
    | none => rw [hdecision] at hentry; cases hentry
    | some decision => simp

theorem follow_inOrder (statuses : List StatusEntry) (now : Instant) (result : Schedule × Step) :
    (follow statuses now result).2.events.Pairwise Event.InOrder := by
  -- What changes the runs is not final, and what stands after it launches nothing.
  have hbefore : ∀ event ∈ result.2.transitions.map Event.process, ∀ later,
      event.InOrder later := by
    intro event hevent later hfinal
    obtain ⟨transition, _, rfl⟩ := List.mem_map.mp hevent
    cases hfinal
  have hafter : ∀ entries : List StatusEntry, ∀ event ∈ entries.map Event.task, ∀ earlier,
      Event.InOrder earlier event := by
    intro entries event hevent earlier _
    obtain ⟨entry, _, rfl⟩ := List.mem_map.mp hevent
    rfl
  rw [follow_events, List.pairwise_append]
  exact ⟨List.pairwise_of_forall_mem_list fun a ha b _ => hbefore a ha b,
    List.pairwise_of_forall_mem_list fun a _ b hb => hafter _ b hb a,
    fun a ha b _ => hbefore a ha b⟩

theorem follow_no_launch {s : Schedule} (h : s.Sound) (decided : s.decision ≠ none)
    (op : Operation) (statuses : List StatusEntry) (now : Instant) :
    ∀ event ∈ (follow statuses now (s.apply op)).2.events, event.isLaunch = false := by
  intro event hevent
  rcases List.mem_append.mp hevent with hmem | hmem
  · obtain ⟨transition, htransition, rfl⟩ := List.mem_map.mp hmem
    exact (apply_aftermath h decided op).no_launch transition htransition
  · obtain ⟨entry, _, rfl⟩ := List.mem_map.mp hmem
    rfl

/-- What one call reports is in order, and a final event among it leaves the task
decided. -/
theorem Answer.inOrder (answer : supervisor.Answer call result) (h : supervisor.schedule.Sound) :
    result.2.events.Pairwise Event.InOrder ∧
      ∀ event ∈ result.2.events, event.isFinal = true → result.1.schedule.decision ≠ none := by
  cases answer with
  | again => exact ⟨.nil, fun _ hmem => absurd hmem List.not_mem_nil⟩
  | begun now fresh follows =>
    rw [follows]
    refine ⟨List.pairwise_cons.mpr ⟨fun later _ hfinal => ?_, follow_inOrder _ _ _⟩, ?_⟩
    · cases hfinal
    · intro event hevent hfinal
      rcases List.mem_cons.mp hevent with rfl | hevent
      · cases hfinal
      · exact follow_isFinal h hevent hfinal
  | told message now =>
    exact ⟨follow_inOrder _ _ _, fun event hevent hfinal => follow_isFinal h hevent hfinal⟩

theorem Answer.no_launch (answer : supervisor.Answer call result) (h : supervisor.schedule.Sound)
    (decided : supervisor.schedule.decision ≠ none) :
    result.1.schedule.decision ≠ none ∧ ∀ event ∈ result.2.events, event.isLaunch = false := by
  have hstays : ∀ op, (supervisor.schedule.apply op).1.decision ≠ none := fun op => by
    rw [((apply_aftermath h decided op).frozen h).decision]
    exact decided
  cases answer with
  | again => exact ⟨decided, fun _ hmem => absurd hmem List.not_mem_nil⟩
  | begun now fresh follows =>
    rw [follows]
    refine ⟨hstays (.start now), List.forall_mem_cons.mpr ⟨rfl, ?_⟩⟩
    exact follow_no_launch h decided (.start now) [⟨.active, now, none⟩] now
  | told message now =>
    exact ⟨hstays (message.operation now), follow_no_launch h decided _ _ _⟩

/-! ## Runs -/

theorem events_of_decided (h : supervisor.schedule.Sound)
    (decided : supervisor.schedule.decision ≠ none) (calls : List Call) :
    ∀ event ∈ supervisor.events calls, event.isLaunch = false := by
  induction calls generalizing supervisor with
  | nil => simp
  | cons call rest ih =>
    have answer := supervisor.apply_answer call
    obtain ⟨hdecided, hnone⟩ := answer.no_launch h decided
    rw [events_cons, List.forall_mem_append]
    exact ⟨hnone, ih (answer.sound h) hdecided⟩

theorem events_inOrder (h : supervisor.schedule.Sound) (calls : List Call) :
    (supervisor.events calls).Pairwise Event.InOrder := by
  induction calls generalizing supervisor with
  | nil => exact .nil
  | cons call rest ih =>
    have answer := supervisor.apply_answer call
    obtain ⟨horder, hfinal⟩ := answer.inOrder h
    rw [events_cons, List.pairwise_append]
    refine ⟨horder, ih (answer.sound h), fun earlier hearlier later hlater hfinished => ?_⟩
    exact events_of_decided (answer.sound h) (hfinal earlier hearlier hfinished) rest later hlater

theorem replay_events (h : supervisor.schedule.Sound) (calls : List Call) :
    supervisor.ledger.replay? (supervisor.events calls) =
      some (supervisor.after calls).ledger := by
  induction calls generalizing supervisor with
  | nil => rfl
  | cons call rest ih =>
    have answer := supervisor.apply_answer call
    rw [events_cons, Ledger.replay?_append, answer.replay h, Option.bind_some,
      ih (answer.sound h)]
    rfl

/-- Whatever a host does with a new supervisor, the events that it reports fit
together, and who takes them from the first one on ends with the result: the same
statuses, and the same runs of the same processes. After the event that announces
the decision none announces a launch. -/
theorem events_complete (task : TaskSpec) (options : SchedulerOptions) (calls : List Call) :
    let supervisor := initial task options
    let result := (supervisor.after calls).result
    Ledger.replay? {} (supervisor.events calls) = some result.ledger ∧
      (∀ p, p ∈ result.processes.map (·.1) ↔ result.ledger.runs p ≠ []) ∧
      (supervisor.events calls).Pairwise Event.InOrder := by
  intro supervisor result
  have h : supervisor.schedule.Sound := initial_sound task options
  have hcoherent := (after_sound h calls).coherent
  have hempty : supervisor.ledger = {} :=
    congrArg (Ledger.mk []) (funext (initial_summaries task options))
  have hledger : result.ledger = (supervisor.after calls).ledger := result_ledger hcoherent
  refine ⟨?_, fun p => ?_, events_inOrder h calls⟩
  · rw [hledger, ← hempty]
    exact replay_events h calls
  · rw [hledger]
    exact recorded_iff hcoherent

end Supervisor

end Overseer
