import Overseer.Proofs.Schedule.Finality
import Overseer.Proofs.Supervisor.Run

/-!
# The status history of a task

The statuses of a task and the decision on it are kept in two places and written at
different times: a supervisor notes that the task is active before the schedule is
asked anything, and it notes a decision when a step announces one. `History` lists
the statuses that go with each decision. There are few, because a supervisor starts
only once and the schedule announces one decision at most.

A shutdown may come before the start. It decides the task with no attempt in flight,
and the entry that it leaves in the history makes the supervisor refuse to start.

Results:
1. `Answer.chronicled`, `after_chronicled`: history and decision stay together.
2. `Over.apply`, `Over.after`: once the task is over no call does anything.
3. `Fresh.after_opening`: what the first start or shutdown leads to.
4. `status_history`: all of it, for any calls on a new supervisor.
-/

namespace Overseer

open Schedule

namespace Call

/-- Whether the call is a start or a shutdown. -/
def opens : Call → Bool
  | .start _ | .tell .shutdown _ => true
  | .tell (.completed ..) _ | .tell (.startFailed ..) _ => false

/-- The first start or shutdown among the calls. -/
def opening? (calls : List Call) : Option Call := calls.find? opens

theorem eq_shutdown_of_opens {message : Message} {now : Instant}
    (h : (tell message now).opens = true) : message = .shutdown := by
  cases message with
  | completed | startFailed => cases h
  | shutdown => rfl

end Call

namespace Decision

theorem statusEntry_isTerminal (decision : Decision) (now : Instant) :
    (decision.statusEntry now).status.isTerminal = true := by
  cases decision <;> rfl

theorem statusEntry_reason (decision : Decision) (now : Instant) :
    (decision.statusEntry now).reason ≠ none ↔ (decision.statusEntry now).status = .failed := by
  cases decision <;> simp [statusEntry]

theorem statusEntry_timestamp (decision : Decision) (now : Instant) :
    (decision.statusEntry now).timestamp = now := by
  cases decision <;> rfl

end Decision

namespace Supervisor

/-! ## Histories -/

/-- The entry of a shutdown. -/
def cancelledEntry (now : Instant) : StatusEntry := ⟨.failed, now, some .cancelled⟩

/-- The histories of a task with the given decision. -/
inductive History : Option Decision → List StatusEntry → Prop
  | fresh : History none []
  | active (now : Instant) : History none [⟨.active, now, none⟩]
  | decided (decision : Decision) (now later : Instant) :
      History (some decision) [⟨.active, now, none⟩, decision.statusEntry later]
  /-- A shutdown before any start. -/
  | aborted (now : Instant) : History (some (.failed .cancelled)) [cancelledEntry now]

variable {decision : Option Decision} {statuses : List StatusEntry} {entry : StatusEntry}

/-- The terminal entries of a history are the entry of the decision. -/
theorem History.terminal_iff (h : History decision statuses) (hentry : entry ∈ statuses) :
    entry.status.isTerminal = true ↔
      ∃ made, decision = some made ∧ entry = made.statusEntry entry.timestamp := by
  cases h with
  | fresh => cases hentry
  | active now =>
    obtain rfl := List.mem_singleton.mp hentry
    simp [TaskStatus.isTerminal]
  | decided made now later =>
    rcases List.mem_pair.mp hentry with rfl | rfl
    · cases made <;> simp [TaskStatus.isTerminal, Decision.statusEntry]
    · simp [Decision.statusEntry_isTerminal, Decision.statusEntry_timestamp]
  | aborted now =>
    obtain rfl := List.mem_singleton.mp hentry
    simp [cancelledEntry, TaskStatus.isTerminal, Decision.statusEntry]

theorem History.exists_terminal (h : History decision statuses) (decided : decision ≠ none) :
    ∃ entry ∈ statuses, entry.status.isTerminal = true := by
  cases h with
  | fresh | active => exact absurd rfl decided
  | decided made now later =>
    exact ⟨made.statusEntry later, by simp, Decision.statusEntry_isTerminal made later⟩
  | aborted now => exact ⟨cancelledEntry now, by simp, rfl⟩

theorem History.reason_iff (h : History decision statuses) (hentry : entry ∈ statuses) :
    entry.reason ≠ none ↔ entry.status = .failed := by
  cases h with
  | fresh => cases hentry
  | active now =>
    obtain rfl := List.mem_singleton.mp hentry
    simp
  | decided made now later =>
    rcases List.mem_pair.mp hentry with rfl | rfl
    · simp
    · exact Decision.statusEntry_reason made later
  | aborted now =>
    obtain rfl := List.mem_singleton.mp hentry
    simp [cancelledEntry]

/-- The last status is active exactly until the decision. -/
theorem History.last_active_iff (h : History decision statuses) :
    (statuses.getLast?.map (·.status)).getD .active = .active ↔ decision = none := by
  cases h with
  | fresh | active | aborted => simp [cancelledEntry]
  | decided made => cases made <;> simp [Decision.statusEntry]

/-- What an operation decides extends a history that has begun. -/
theorem History.extend {s : Schedule} (h : History s.decision statuses) (hs : s.Sound)
    (begun : statuses ≠ []) (op : Operation) (now : Instant) :
    History (s.apply op).1.decision
      (statuses ++ ((s.apply op).2.decision.map (·.statusEntry now)).toList) := by
  rw [apply_decision hs]
  by_cases decided : s.decision = none
  · rw [decided] at h ⊢
    cases h with
    | fresh => exact absurd rfl begun
    | active earlier =>
      cases (s.apply op).2.decision with
      | none => exact .active earlier
      | some made => exact .decided made earlier now
  · rw [(apply_aftermath hs decided op).silent.decision]
    simpa using h

/-! ## Calls -/

variable {supervisor : Supervisor} {call : Call} {result : Supervisor × Reaction}

/-- Statuses and schedule of a supervisor tell the same story. -/
structure Chronicled (supervisor : Supervisor) : Prop where
  sound : supervisor.schedule.Sound
  history : History supervisor.schedule.decision supervisor.statuses
  /-- Before the first entry nothing was launched. -/
  idle : supervisor.statuses = [] → supervisor.schedule.inFlight = []

/-- Nothing was noted yet. -/
structure Fresh (supervisor : Supervisor) : Prop extends Chronicled supervisor where
  empty : supervisor.statuses = []

/-- The task is decided and nothing is in flight. -/
structure Over (supervisor : Supervisor) : Prop extends Chronicled supervisor where
  decided : supervisor.schedule.decision ≠ none
  drained : supervisor.schedule.inFlight = []

theorem Fresh.undecided (h : supervisor.Fresh) : supervisor.schedule.decision = none := by
  have hhistory := h.history
  rw [h.empty] at hhistory
  generalize supervisor.schedule.decision = decision at hhistory ⊢
  cases hhistory
  rfl

theorem Over.begun (h : supervisor.Over) : supervisor.statuses ≠ [] := by
  obtain ⟨entry, hmem, _⟩ := h.history.exists_terminal h.decided
  exact List.ne_nil_of_mem hmem

theorem isBusy_iff : supervisor.isBusy = true ↔
    supervisor.schedule.decision = none ∨ supervisor.schedule.inFlight ≠ [] := by
  simp [isBusy, isDecided, Schedule.isDecided]

theorem Answer.keepRunning (answer : supervisor.Answer call result) :
    result.2.keepRunning = result.1.isBusy := by
  cases answer with
  | again => rfl
  | begun now fresh follows => rw [follows]; rfl
  | told => rfl

/-- What an ignored operation is answered with. -/
theorem follow_ignored (s : Schedule) (statuses : List StatusEntry) (now : Instant) :
    follow statuses now (s, {}) =
      (⟨s, statuses⟩, { keepRunning := (⟨s, statuses⟩ : Supervisor).isBusy }) := by
  simp [follow, Step.commands]

/-- The supervisor that was shut down before its start. -/
def aborted (supervisor : Supervisor) (now : Instant) : Supervisor :=
  ⟨supervisor.schedule.decide (.failed .cancelled), [cancelledEntry now]⟩

/-- Before the start only a shutdown is taken notice of. -/
theorem Fresh.tell_unopened (h : supervisor.Fresh) {message : Message} {now : Instant}
    (unopened : (Call.tell message now).opens = false) :
    supervisor.apply (.tell message now) = (supervisor, { keepRunning := true }) := by
  have hbusy : supervisor.isBusy = true := isBusy_iff.mpr (Or.inl h.undecided)
  have hignored : ∀ id report, supervisor.schedule.complete id report now =
      (supervisor.schedule, {}) := fun id report =>
    complete_ignored h.sound.coherent.distinct (by simp [h.idle h.empty])
  cases message with
  | completed id report => simp [apply, handle, hignored, follow_ignored, hbusy]
  | startFailed id reason => simp [apply, handle, hignored, follow_ignored, hbusy]
  | shutdown => cases unopened

theorem isBusy_eq_false : supervisor.isBusy = false ↔
    supervisor.schedule.decision ≠ none ∧ supervisor.schedule.inFlight = [] := by
  rw [← Bool.not_eq_true, isBusy_iff, not_or, not_not]

theorem Fresh.cancel (h : supervisor.Fresh) : supervisor.schedule.apply .cancel =
    (supervisor.schedule.decide (.failed .cancelled),
      { decision := some (.failed .cancelled) }) := by
  have undecided : ¬ supervisor.schedule.isDecided = true := by
    simp [Schedule.isDecided, h.undecided]
  rw [Schedule.apply, Schedule.cancel, if_neg undecided, fail, h.idle h.empty]
  rfl

theorem Fresh.aborted (h : supervisor.Fresh) (now : Instant) : (supervisor.aborted now).Over where
  sound := by
    have hsound := apply_sound h.sound .cancel
    rwa [h.cancel] at hsound
  history := .aborted now
  idle := fun hnil => absurd hnil (List.cons_ne_nil _ _)
  decided := Option.some_ne_none _
  drained := h.idle h.empty

theorem Over.not_busy (h : supervisor.Over) : supervisor.isBusy = false :=
  isBusy_eq_false.mpr ⟨h.decided, h.drained⟩

/-- A shutdown before the start decides the task, with nothing to stop. -/
theorem Fresh.tell_shutdown (h : supervisor.Fresh) (now : Instant) :
    supervisor.apply (.tell .shutdown now) =
      (supervisor.aborted now,
        { events := [.task (cancelledEntry now)], keepRunning := false }) := by
  change follow supervisor.statuses now (supervisor.schedule.apply .cancel) = _
  rw [h.cancel, h.empty, ← (h.aborted now).not_busy]
  rfl

/-- A call keeps statuses and schedule together. -/
theorem Answer.chronicled (answer : supervisor.Answer call result) (h : supervisor.Chronicled)
    (begun : supervisor.statuses ≠ []) : result.1.Chronicled := by
  have hsound := answer.sound h.sound
  cases answer with
  | again => exact h
  | begun now fresh => exact absurd fresh begun
  | told message now =>
    exact ⟨hsound, h.history.extend h.sound begun _ now, fun hnil => by simp_all⟩

theorem Fresh.start (h : supervisor.Fresh) (now : Instant) :
    (supervisor.apply (.start now)).1.Chronicled ∧
      (supervisor.apply (.start now)).1.statuses.head? = some ⟨.active, now, none⟩ := by
  have answer := supervisor.apply_answer (.start now)
  have hsound := answer.sound h.sound
  have hactive : History supervisor.schedule.decision [⟨.active, now, none⟩] :=
    h.undecided ▸ .active now
  generalize supervisor.apply (.start now) = result at answer hsound ⊢
  cases answer with
  | again _ begun => exact absurd h.empty begun
  | begun _ _ follows =>
    subst follows
    exact ⟨⟨hsound, hactive.extend h.sound (List.cons_ne_nil _ _) (.start now) now,
      fun hnil => absurd hnil (List.cons_ne_nil _ _)⟩, rfl⟩

theorem apply_chronicled (h : supervisor.Chronicled) (call : Call) :
    (supervisor.apply call).1.Chronicled := by
  by_cases fresh : supervisor.statuses = []
  · have hfresh : supervisor.Fresh := ⟨h, fresh⟩
    cases call with
    | start now => exact (hfresh.start now).1
    | tell message now =>
      cases hopens : (Call.tell message now).opens with
      | false =>
        rw [hfresh.tell_unopened hopens]
        exact h
      | true =>
        obtain rfl := Call.eq_shutdown_of_opens hopens
        rw [hfresh.tell_shutdown now]
        exact (hfresh.aborted now).toChronicled
  · exact (supervisor.apply_answer call).chronicled h fresh

theorem after_chronicled (h : supervisor.Chronicled) (calls : List Call) :
    (supervisor.after calls).Chronicled := by
  induction calls generalizing supervisor with
  | nil => exact h
  | cons call rest ih => exact ih (apply_chronicled h call)

/-! ## After the end -/

theorem Over.apply (h : supervisor.Over) (call : Call) :
    supervisor.apply call = (supervisor, { keepRunning := false }) := by
  have hignored : ∀ op, supervisor.schedule.apply op = (supervisor.schedule, {}) := fun op => by
    have haftermath := apply_aftermath h.sound h.decided op
    generalize supervisor.schedule.apply op = result at haftermath ⊢
    cases haftermath with
    | ignored => rfl
    | closed life earlier last report now call inFlight =>
      exact absurd inFlight (by simp [h.drained])
  have answer := supervisor.apply_answer call
  generalize supervisor.apply call = result at answer ⊢
  cases answer with
  | again => rw [h.not_busy]
  | begun now fresh => exact absurd fresh h.begun
  | told message now =>
    rw [hignored, follow_ignored]
    exact congrArg (Prod.mk supervisor ∘ Reaction.mk [] []) h.not_busy

/-- Once the task is over no call changes anything or asks for anything. -/
theorem Over.after (h : supervisor.Over) (calls : List Call) :
    supervisor.after calls = supervisor ∧
      ∀ reaction ∈ supervisor.reactions calls, reaction = { keepRunning := false } := by
  induction calls with
  | nil => exact ⟨rfl, fun _ hmem => absurd hmem List.not_mem_nil⟩
  | cons call rest ih =>
    rw [Supervisor.after, reactions, h.apply]
    exact ⟨ih.1, List.forall_mem_cons.mpr ⟨rfl, ih.2⟩⟩

/-! ## The first start or shutdown -/

/-- A history that has begun keeps its first entry. -/
theorem after_head? (calls : List Call) (begun : supervisor.statuses ≠ []) :
    (supervisor.after calls).statuses.head? = supervisor.statuses.head? := by
  induction calls generalizing supervisor with
  | nil => rfl
  | cons call rest ih =>
    have hnext : ∃ more, (supervisor.apply call).1.statuses = supervisor.statuses ++ more := by
      have answer := supervisor.apply_answer call
      generalize supervisor.apply call = result at answer ⊢
      cases answer with
      | again => exact ⟨[], (List.append_nil _).symm⟩
      | begun now fresh => exact absurd fresh begun
      | told message now => exact ⟨_, rfl⟩
    obtain ⟨more, hmore⟩ := hnext
    have hbegun : (supervisor.apply call).1.statuses ≠ [] := by simp [hmore, begun]
    rw [Supervisor.after, ih hbegun, hmore, List.head?_append_of_ne_nil _ begun]

/-- What the first start or shutdown makes of a supervisor. -/
theorem Fresh.after_opening (h : supervisor.Fresh) (calls : List Call) :
    match Call.opening? calls with
    | none => supervisor.after calls = supervisor
    | some (.start now) => (supervisor.after calls).statuses.head? = some ⟨.active, now, none⟩
    | some (.tell _ now) => supervisor.after calls = supervisor.aborted now ∧
        ∀ reaction ∈ supervisor.reactions calls, reaction.commands = [] := by
  -- Calls before the opening leave the supervisor as it is, so the induction stays with it.
  induction calls with
  | nil => rfl
  | cons call rest ih =>
    cases hopens : call.opens with
    | false =>
      rw [Call.opening?, List.find?_cons_of_neg (by simp [hopens]), ← Call.opening?]
      have hnext : supervisor.apply call = (supervisor, { keepRunning := true }) := by
        cases call with
        | start now => cases hopens
        | tell message now => exact h.tell_unopened hopens
      simpa only [Supervisor.after, reactions, hnext, List.forall_mem_cons, true_and] using ih
    | true =>
      rw [Call.opening?, List.find?_cons_of_pos hopens]
      cases call with
      | start now =>
        obtain ⟨_, hhead⟩ := h.start now
        have hbegun : (supervisor.apply (.start now)).1.statuses ≠ [] := by
          rintro hnil
          simp [hnil] at hhead
        exact (after_head? rest hbegun).trans hhead
      | tell message now =>
        obtain rfl := Call.eq_shutdown_of_opens hopens
        have hover := (h.aborted now).after rest
        simp only [Supervisor.after, reactions, h.tell_shutdown, List.forall_mem_cons]
        exact ⟨hover.1, trivial, fun reaction hmem => by rw [hover.2 reaction hmem]⟩

/-! ## Any calls -/

theorem initial_records (task : TaskSpec) (options : SchedulerOptions) :
    (Schedule.initial task options).records = [] := by
  refine List.eq_nil_iff_forall_not_mem.mpr fun record hrecord => ?_
  obtain ⟨life, hmem, hruns, _⟩ := mem_records.mp hrecord
  exact hruns (initial_pending hmem).2.1

theorem initial_fresh (task : TaskSpec) (options : SchedulerOptions) :
    (initial task options).Fresh where
  sound := initial_sound task options
  history := .fresh
  idle _ := initial_inFlight
  empty := rfl

/-- The history is that of a shutdown before the start if that was the first of the
two. -/
theorem Fresh.aborted_iff (h : supervisor.Fresh) (calls : List Call) (now : Instant) :
    (supervisor.after calls).statuses = [cancelledEntry now] ↔
      Call.opening? calls = some (.tell .shutdown now) := by
  have hopening := h.after_opening calls
  cases hfirst : Call.opening? calls with
  | none =>
    rw [hfirst] at hopening
    simp [hopening, h.empty]
  | some call =>
    rw [hfirst] at hopening
    cases call with
    | start time =>
      refine ⟨fun hstatuses => ?_, fun hcall => by cases hcall⟩
      rw [hstatuses] at hopening
      cases hopening
    | tell message time =>
      obtain rfl := Call.eq_shutdown_of_opens (List.find?_some hfirst)
      simp [hopening.1, Supervisor.aborted, cancelledEntry]

/-- Whatever calls are made on a new supervisor, its history goes with the decision:
a terminal entry is that of the decision, and gives a reason exactly for a failure.
The history begins with a failure just if a shutdown came before any start; then a
start is ignored and nothing is ever launched. More messages are expected as long
as the task is undecided or an attempt is in flight, and after that nothing happens
any more. -/
theorem status_history (task : TaskSpec) (options : SchedulerOptions) (calls : List Call) :
    let outset := initial task options
    let supervisor := outset.after calls
    History supervisor.schedule.decision supervisor.statuses ∧
    (supervisor.schedule.decision ≠ none ↔
      ∃ entry ∈ supervisor.statuses, entry.status.isTerminal = true) ∧
    (∀ entry ∈ supervisor.statuses,
      (entry.status.isTerminal = true ↔ ∃ made, supervisor.schedule.decision = some made ∧
        entry = made.statusEntry entry.timestamp) ∧
      (entry.reason ≠ none ↔ entry.status = .failed)) ∧
    (∀ now, supervisor.statuses = [cancelledEntry now] ↔
      Call.opening? calls = some (.tell .shutdown now)) ∧
    (∀ now, Call.opening? calls = some (.tell .shutdown now) →
      supervisor.schedule.records = [] ∧
      (∀ reaction ∈ outset.reactions calls, reaction.commands = []) ∧
      ∀ later, supervisor.apply (.start later) = (supervisor, { keepRunning := false })) ∧
    supervisor.result.status = (supervisor.statuses.getLast?.map (·.status)).getD .active ∧
    (supervisor.result.status = .active ↔ supervisor.schedule.decision = none) ∧
    ∀ call, let answer := supervisor.apply call
      (answer.2.keepRunning = true ↔
        answer.1.schedule.decision = none ∨ answer.1.schedule.inFlight ≠ []) ∧
      (answer.2.keepRunning = false → ∀ more, answer.1.after more = answer.1 ∧
        ∀ reaction ∈ answer.1.reactions more, reaction = { keepRunning := false }) := by
  intro outset supervisor
  have hfresh : outset.Fresh := initial_fresh task options
  have h : supervisor.Chronicled := after_chronicled hfresh.toChronicled calls
  have hlast : supervisor.result.status =
      (supervisor.statuses.getLast?.map (·.status)).getD .active := by
    rw [result]
    cases supervisor.statuses.getLast? <;> rfl
  refine ⟨h.history, ⟨h.history.exists_terminal, ?_⟩, fun entry hentry =>
    ⟨h.history.terminal_iff hentry, h.history.reason_iff hentry⟩, hfresh.aborted_iff calls, ?_,
    hlast, hlast ▸ h.history.last_active_iff, fun call => ⟨?_, fun hstop => ?_⟩⟩
  · rintro ⟨entry, hentry, hterminal⟩ hnone
    obtain ⟨made, hmade, _⟩ := (h.history.terminal_iff hentry).mp hterminal
    rw [hnone] at hmade
    cases hmade
  · intro now hfirst
    have hopening := hfresh.after_opening calls
    rw [hfirst] at hopening
    obtain ⟨hsupervisor, hcommands⟩ := hopening
    have hsame : supervisor = outset.aborted now := hsupervisor
    have hover : supervisor.Over := hsame ▸ hfresh.aborted now
    refine ⟨?_, hcommands, fun later => hover.apply (.start later)⟩
    rw [hsame]
    exact initial_records task options
  · rw [(supervisor.apply_answer call).keepRunning]
    exact isBusy_iff
  · rw [(supervisor.apply_answer call).keepRunning, isBusy_eq_false] at hstop
    have hover : (supervisor.apply call).1.Over := ⟨apply_chronicled h call, hstop.1, hstop.2⟩
    exact hover.after

end Supervisor

end Overseer
