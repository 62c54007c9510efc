import Overseer.Proofs.Session.Contacts
import Overseer.Proofs.Task.Checked
import Overseer.Rehearsal.Basic

/-!
# The account of a session

Whatever the environment does, a session is accounted for by its contacts: the calls
on the supervisor are a start at the first reading of the clock and one message for
each later reading, the messages are the refusals and receptions in the order in
which they came up, the events that were offered are those of the calls, and the
attempts that were started those that the calls asked for.

`Account` says so of a session that is under way or at its end. A wait adds the message
that it brings to those that are to be handed over, and a call hands the oldest of
them over and adds its refusals.

Each round but the last hands one message over. A refusal is one of the attempts that
were started, which are at most as many as a task may have, and any other message was
received. So a session goes on only as long as messages are received, but for so many
rounds, and it ends with the first wait that brings none.

Results:
1. `Account.start`, `Account.wait`, `Account.tell`: what each contact adds.
2. `Account.told_le`: how many messages there are to hand over.
3. `Underway.round`, `Underway.waited`, `Underway.close`: one round.
4. `contacts_accounted`: any session, with what its ending says; `refusal_lost_diamond`: one
   that breaks off with a refusal that is not handed over.
-/

namespace Overseer

open Contact Schedule

theorem Step.commands_attempts (step : Step) :
    step.commands.flatMap (·.attempts) = step.launched := by
  rw [commands]
  cases step.launched <;> cases step.toStop <;> simp [Command.attempts]

/-- The calls of a session that starts at `first` and hands `told` over. -/
def Session.calls (first : Instant) (told : List (Message × Instant)) : List Call :=
  .start first :: told.map fun (message, now) => .tell message now

namespace Supervisor

/-- Each attempt that a call starts is one more run. -/
theorem apply_attempts (supervisor : Supervisor) (sound : supervisor.schedule.Sound) (call : Call)
    (starts : ∀ now, call = .start now → supervisor.statuses = []) :
    (supervisor.apply call).1.schedule.runIds.length =
      supervisor.schedule.runIds.length + (supervisor.apply call).2.attempts.length := by
  obtain ⟨hschedule, hcommands⟩ := supervisor.apply_operation call starts
  have hruns := ((apply_changes sound call.operation).runIds sound).length_eq
  rw [hschedule, Reaction.attempts, hcommands, Step.commands_attempts, hruns, List.length_append,
    Step.launchedIds, List.length_map]

theorem reactions_attempts (supervisor : Supervisor) (sound : supervisor.schedule.Sound)
    {calls : List Call} (tells : ∀ now, Call.start now ∉ calls) :
    (supervisor.after calls).schedule.runIds.length = supervisor.schedule.runIds.length +
      ((supervisor.reactions calls).flatMap (·.attempts)).length := by
  induction calls generalizing supervisor with
  | nil => rfl
  | cons call rest ih =>
    have hone := supervisor.apply_attempts sound call fun now hcall =>
      absurd (hcall ▸ List.mem_cons_self) (tells now)
    have hrest := ih _ ((supervisor.apply_answer call).sound sound) fun now hmem =>
      tells now (List.mem_cons_of_mem _ hmem)
    simp only [after, reactions, List.flatMap_cons, List.length_append] at hrest ⊢
    omega

end Supervisor

/-- Before each wait the clock was read once for the start and once for every message
that had come up by then, so that none of them was left. -/
def Prompt (log : List Contact) : Prop :=
  ∀ front deadline reception, front ++ [.waited deadline reception] <+: log →
    (front.filterMap reading?).length = (front.filterMap message?).length + 1

namespace Prompt

variable {log more : List Contact}

theorem concat (h : Prompt log) {contact : Contact}
    (hcontact : ∀ deadline reception, contact = .waited deadline reception →
      (log.filterMap reading?).length = (log.filterMap message?).length + 1) :
    Prompt (log ++ [contact]) := by
  intro front deadline reception hfront
  rcases List.prefix_concat_iff.mp hfront with heq | hfront
  · obtain ⟨rfl, hlast⟩ := List.append_inj' heq rfl
    exact hcontact deadline reception (List.singleton_inj.mp hlast).symm
  · exact h front deadline reception hfront

theorem append (h : Prompt log) (hmore : ∀ deadline reception, .waited deadline reception ∉ more) :
    Prompt (log ++ more) := by
  induction more generalizing log with
  | nil => rwa [List.append_nil]
  | cons contact rest ih =>
    rw [List.append_cons]
    refine ih (h.concat fun deadline reception heq => ?_) fun deadline reception hmem =>
      hmore deadline reception (List.mem_cons_of_mem _ hmem)
    exact absurd (heq ▸ List.mem_cons_self) (hmore deadline reception)

end Prompt

/-- What the contacts of a session say of its supervisor, which was told of `told`, and
of the messages that wait. -/
structure Account (outset : Supervisor) (first : Instant) (told : List (Message × Instant))
    (supervisor : Supervisor) (waiting : List Message) (log : List Contact) : Prop where
  supervisor : supervisor = outset.after (Session.calls first told)
  readings : log.filterMap reading? = first :: told.map (·.2)
  messages : log.filterMap message? = told.map (·.1) ++ waiting
  events : log.filterMap event? = outset.events (Session.calls first told)
  attempts : log.filterMap attempt? =
    (outset.reactions (Session.calls first told)).flatMap (·.attempts)
  prompt : Prompt log
  /-- Nothing is handed over once the task is decided and nothing is in flight. -/
  needed : ∀ front entry, front ++ [entry] <+: told →
    (outset.after (Session.calls first front)).isBusy = true

namespace Account

variable {World : Type} {env : Environment World} {outset supervisor : Supervisor}
  {first : Instant} {told : List (Message × Instant)} {waiting : List Message}
  {log : List Contact}

/-- A wait comes when all messages were handed over, and brings at most one more. -/
theorem wait (h : Account outset first told supervisor [] log) (deadline : Option Span)
    (reception : Reception) :
    Account outset first told supervisor (waited deadline reception).message?.toList
      (log ++ [.waited deadline reception]) where
  supervisor := h.supervisor
  readings := by simp [List.filterMap_append, h.readings, List.filterMap_cons, reading?]
  messages := by
    rw [List.filterMap_append, h.messages, List.append_nil]
    cases reception <;> rfl
  events := by simp [List.filterMap_append, h.events, List.filterMap_cons, event?]
  attempts := by simp [List.filterMap_append, h.attempts, List.filterMap_cons, attempt?]
  prompt := by
    refine h.prompt.concat fun _ _ _ => ?_
    rw [h.readings, h.messages, List.append_nil, List.length_cons, List.length_map,
      List.length_map]
  needed := h.needed

theorem start (env : Environment World) (outset : Supervisor) (world : World) :
    ∃ first, Account outset first []
      (Session.start env.logged outset (world, [])).supervisor
      (Session.start env.logged outset (world, [])).backlog
      (Session.start env.logged outset (world, [])).world.2 := by
  obtain ⟨contacts, hanswered, hcall⟩ :=
    Session.call_logged env ⟨outset, [], none, world, []⟩ .start world []
  rw [Session.start_eq, hcall, List.nil_append, List.nil_append]
  exact ⟨_, rfl, hanswered.readings, hanswered.messages,
    by simp [hanswered.events, Session.calls],
    by simp [hanswered.attempts, Session.calls, Supervisor.reactions],
    List.nil_append contacts ▸ Prompt.append (by simp [Prompt]) hanswered.unwaiting, by simp⟩

/-- A call hands the oldest message over and adds its refusals. -/
theorem tell (env : Environment World) (session : Session (World × List Contact))
    {message : Message} {state : World × List Contact}
    (h : Account outset first told session.supervisor (message :: session.backlog) state.2)
    (busy : session.supervisor.isBusy = true) :
    ∃ now, Account outset first (told ++ [(message, now)])
      (session.call env.logged (.tell message) state).supervisor
      (session.call env.logged (.tell message) state).backlog
      (session.call env.logged (.tell message) state).world.2 := by
  obtain ⟨world, log⟩ := state
  obtain ⟨contacts, hanswered, hcall⟩ :=
    Session.call_logged env session (.tell message) world log
  rw [hcall]
  set now := (env.readClock world).1
  have hcalls : Session.calls first (told ++ [(message, now)]) =
      Session.calls first told ++ [.tell message now] := by simp [Session.calls]
  refine ⟨now, ?_, ?_, ?_, ?_, ?_, h.prompt.append hanswered.unwaiting,
    fun front entry hfront => ?_⟩
  · rw [hcalls, Supervisor.after_append, ← h.supervisor]
    rfl
  · rw [List.filterMap_append, h.readings, hanswered.readings]
    simp
  · rw [List.filterMap_append, h.messages, hanswered.messages]
    simp
  · rw [List.filterMap_append, h.events, hanswered.events, hcalls, Supervisor.events,
      Supervisor.events, Supervisor.reactions_append, List.flatMap_append, ← h.supervisor]
    simp [Supervisor.reactions]
  · rw [List.filterMap_append, h.attempts, hanswered.attempts, hcalls,
      Supervisor.reactions_append, List.flatMap_append, ← h.supervisor]
    simp [Supervisor.reactions]
  · rcases List.prefix_concat_iff.mp hfront with heq | hfront
    · rw [(List.append_inj' heq rfl).1, ← h.supervisor]
      exact busy
    · exact h.needed front entry hfront

/-- The attempts that were started are at most as many as the task may have. -/
theorem attempts_le (h : Account outset first told supervisor waiting log) (fresh : outset.Fresh) :
    (log.filterMap attempt?).length ≤ outset.schedule.task.allowance := by
  have hruns : (outset.after (Session.calls first told)).schedule.runIds.length ≤
      outset.schedule.task.allowance := by
    rw [← Supervisor.after_task fresh.sound (Session.calls first told)]
    exact (Supervisor.after_sound fresh.sound _).coherent.runIds_length_le
  have htells : ∀ now, Call.start now ∉ told.map fun (message, now) => Call.tell message now := by
    simp
  rw [h.attempts]
  rw [Session.calls] at hruns ⊢
  generalize (told.map fun (message, now) => Call.tell message now) = tells at hruns htells ⊢
  have hstart := outset.apply_attempts fresh.sound (.start first) fun _ _ => fresh.empty
  have htold := (outset.apply (.start first)).1.reactions_attempts
    ((outset.apply_answer (.start first)).sound fresh.sound) htells
  simp only [Supervisor.after, Supervisor.reactions, List.flatMap_cons, List.length_append]
    at hruns ⊢
  omega

/-- A message that is handed over was received, or refuses one of the attempts. -/
theorem told_le (h : Account outset first told supervisor waiting log) (fresh : outset.Fresh) :
    told.length ≤ outset.schedule.task.allowance + (log.filterMap received?).length := by
  have hmessages := congrArg List.length h.messages
  have hcame := messages_length_le log
  have hattempts := h.attempts_le fresh
  rw [List.length_append, List.length_map] at hmessages
  omega

end Account

namespace Session

variable {World : Type} {env : Environment World} {drainTimeout : Span} {outset : Supervisor}

/-- The last contact of a call is not a wait. -/
theorem call_last (session : Session (World × List Contact)) (make : Instant → Call)
    (state : World × List Contact) (deadline : Option Span) (reception : Reception) :
    (session.call env.logged make state).world.2.getLast? ≠
      some (.waited deadline reception) := by
  obtain ⟨world, log⟩ := state
  obtain ⟨contacts, hanswered, hcall⟩ := call_logged env session make world log
  rw [hcall]
  intro hlast
  have hsome : contacts ≠ [] := by
    rintro rfl
    cases hanswered.readings
  rw [List.getLast?_append_of_ne_nil _ hsome] at hlast
  exact hanswered.unwaiting deadline reception (List.mem_of_getLast? hlast)

/-- A session with a log that has not ended after so many rounds. -/
structure Underway (outset : Supervisor) (made : Nat) (session : Session (World × List Contact)) :
    Prop extends Orderly session where
  account : ∃ first told, told.length = made ∧
    Account outset first told session.supervisor session.backlog session.world.2
  /-- All waits have brought a message so far. -/
  answered : ∀ deadline reception, .waited deadline reception ∈ session.world.2 →
    ∃ message, reception = .message message
  last : ∀ deadline reception, session.world.2.getLast? ≠ some (.waited deadline reception)

/-- The waits after a call are those before it. -/
theorem of_waited_call (session : Session (World × List Contact)) (make : Instant → Call)
    (state : World × List Contact) {deadline : Option Span} {reception : Reception}
    (hmem : .waited deadline reception ∈ (session.call env.logged make state).world.2) :
    .waited deadline reception ∈ state.2 := by
  obtain ⟨world, log⟩ := state
  obtain ⟨contacts, hanswered, hcall⟩ := call_logged env session make world log
  rw [hcall] at hmem
  exact (List.mem_append.mp hmem).resolve_right (hanswered.unwaiting deadline reception)

theorem Underway.round {session next : Session (World × List Contact)} {made : Nat}
    (h : Underway outset made session)
    (round : Round env.logged drainTimeout session (none, next)) :
    Underway outset (made + 1) next := by
  have hnext := h.toOrderly.round round
  obtain ⟨first, told, rfl, haccount⟩ := h.account
  cases round with
  | refused deadline message rest busy _ waiting =>
    rw [waiting] at haccount
    obtain ⟨now, htold⟩ :=
      Account.tell env { session with deadline, backlog := rest } haccount busy
    exact ⟨hnext, ⟨first, _, List.length_append, htold⟩,
      fun _ _ hmem => h.answered _ _ (of_waited_call _ _ _ hmem), call_last _ _ _⟩
  | received deadline message state busy _ empty reception =>
    have hlog := env.receive_log reception
    rw [empty] at haccount
    have hwaited := haccount.wait deadline (.message message)
    rw [← hlog] at hwaited
    obtain ⟨now, htold⟩ := Account.tell env { session with deadline }
      (by rw [empty]; exact hwaited) busy
    refine ⟨hnext, ⟨first, _, List.length_append, htold⟩, fun _ _ hmem => ?_, call_last _ _ _⟩
    have hbefore := of_waited_call _ _ _ hmem
    rw [hlog] at hbefore
    rcases List.mem_append.mp hbefore with hold | hnew
    · exact h.answered _ _ hold
    · cases List.mem_singleton.mp hnew
      exact ⟨message, rfl⟩

/-! ## Endings -/

/-- How a session with a log can end. -/
inductive Close (env : Environment World) (drainTimeout : Span)
    (final : Session (World × List Contact)) : Ending → Prop
  /-- The task is decided and nothing is in flight, which takes no wait to see. -/
  | done (idle : final.supervisor.isBusy = false)
      (last : ∀ deadline reception, final.world.2.getLast? ≠ some (.waited deadline reception)) :
      Close env drainTimeout final (.finished final.supervisor.result)
  | timedOut (deadline : Span) (decided : final.supervisor.isDecided = true)
      (last : final.world.2.getLast? = some (.waited (some deadline) .silence)) :
      Close env drainTimeout final (.finished final.supervisor.result)
  | closed (deadline : Span) (decided : final.supervisor.isDecided = true)
      (last : final.world.2.getLast? = some (.waited (some deadline) .closed)) :
      Close env drainTimeout final (.finished final.supervisor.result)
  | cutOff (undecided : final.supervisor.isDecided = false)
      (last : final.world.2.getLast? = some (.waited none .closed)) :
      Close env drainTimeout final .cutOff
  | silence (undecided : final.supervisor.isDecided = false)
      (last : final.world.2.getLast? = some (.waited none .silence)) :
      Close env drainTimeout final .hung
  | standstill (deadline : Option Span)
      (last : final.world.2.getLast? = some (.waited deadline .standstill)) :
      Close env drainTimeout final .hung
  /-- The task is decided, and the deadline that is due cannot be told. -/
  | brokenOff (decided : final.supervisor.isDecided = true)
      (beyond : env.horizon.nanos < (env.uptime final.world.1).nanos + drainTimeout.nanos)
      (last : ∀ deadline reception, final.world.2.getLast? ≠ some (.waited deadline reception)) :
      Close env drainTimeout final .brokenOff

namespace Close

variable {final : Session (World × List Contact)} {ending : Ending}

theorem finished {result : TaskResult} (h : Close env drainTimeout final (.finished result)) :
    result = final.supervisor.result ∧ final.supervisor.isDecided = true ∧
      (final.supervisor.schedule.inFlight ≠ [] → ∃ deadline,
        final.world.2.getLast? = some (.waited (some deadline) .silence) ∨
        final.world.2.getLast? = some (.waited (some deadline) .closed)) := by
  cases h with
  | done idle =>
    obtain ⟨decided, drained⟩ := Supervisor.isBusy_eq_false.mp idle
    exact ⟨rfl, Option.isSome_iff_ne_none.mpr decided, fun hopen => absurd drained hopen⟩
  | timedOut deadline decided last => exact ⟨rfl, decided, fun _ => ⟨deadline, Or.inl last⟩⟩
  | closed deadline decided last => exact ⟨rfl, decided, fun _ => ⟨deadline, Or.inr last⟩⟩

end Close

/-- A wait that brings no message is the first such, and leaves nothing to hand over. -/
theorem Underway.waited {session : Session (World × List Contact)} {made : Nat}
    (h : Underway outset made session) {deadline : Option Span} {reception : Reception}
    {state : World × List Contact}
    (hreceive : env.logged.receive deadline session.world = (reception, state))
    (hnone : (Contact.waited deadline reception).message? = none)
    (empty : session.backlog = []) :
    state.2.getLast? = some (.waited deadline reception) ∧
      (∀ deadline reception, .waited deadline reception ∈ state.2 →
        (∃ message, reception = .message message) ∨
          state.2.getLast? = some (.waited deadline reception)) ∧
      ∃ first told, told.length = made ∧
        Account outset first told session.supervisor session.backlog state.2 := by
  obtain ⟨first, told, hmade, haccount⟩ := h.account
  rw [env.receive_log hreceive]
  refine ⟨List.getLast?_concat, fun _ _ hmem => ?_, first, told, hmade, ?_⟩
  · rcases List.mem_append.mp hmem with hold | hnew
    · exact Or.inl (h.answered _ _ hold)
    · rw [List.mem_singleton.mp hnew]
      exact Or.inr List.getLast?_concat
  · rw [empty] at haccount ⊢
    have hwait := haccount.wait deadline reception
    rwa [hnone] at hwait

/-- A session ends with all messages handed over, unless it breaks off, and with the first
wait that brings no message. -/
theorem Underway.close {session final : Session (World × List Contact)} {made : Nat}
    {ending : Ending} (h : Underway outset made session)
    (round : Round env.logged drainTimeout session (some ending, final)) :
    Close env drainTimeout final ending ∧ (ending ≠ .brokenOff → final.backlog = []) ∧
      (final.supervisor.isBusy = false → ending = .finished final.supervisor.result ∧
        ∀ deadline reception, final.world.2.getLast? ≠ some (.waited deadline reception)) ∧
      (∀ deadline reception, .waited deadline reception ∈ final.world.2 →
        (∃ message, reception = .message message) ∨
          final.world.2.getLast? = some (.waited deadline reception)) ∧
      ∃ first told, told.length = made ∧
        Account outset first told final.supervisor final.backlog final.world.2 := by
  have unidle {P : Prop} (busy : session.supervisor.isBusy = true)
      (idle : session.supervisor.isBusy = false) : P := by
    rw [busy] at idle
    cases idle
  cases round with
  | done idle =>
    exact ⟨.done idle h.last, fun _ => h.backlog_eq_nil idle, fun _ => ⟨rfl, h.last⟩,
      fun _ _ hmem => Or.inl (h.answered _ _ hmem), h.account⟩
  | brokenOff busy unset =>
    obtain ⟨decided, _, hbeyond⟩ := withDeadline?_eq_none.mp unset
    have beyond := (Environment.deadline?_eq_none env.logged).mp hbeyond
    exact ⟨.brokenOff decided beyond h.last, fun hending => absurd rfl hending, unidle busy,
      fun _ _ hmem => Or.inl (h.answered _ _ hmem), h.account⟩
  | closed deadline state busy set empty reception =>
    obtain ⟨hlast, hwaits⟩ := h.waited reception rfl empty
    have hdeadline := deadline_isSome h.decided set
    refine ⟨?_, fun _ => empty, unidle busy, hwaits⟩
    cases deadline with
    | none =>
      have undecided : session.supervisor.isDecided = false := hdeadline.symm
      rw [if_neg (ne_true_of_eq_false undecided)]
      exact .cutOff undecided hlast
    | some deadline =>
      have decided : session.supervisor.isDecided = true := hdeadline.symm
      rw [if_pos decided]
      exact .closed deadline decided hlast
  | silence deadline state busy set empty reception =>
    obtain ⟨hlast, hwaits⟩ := h.waited reception rfl empty
    have hdeadline := deadline_isSome h.decided set
    refine ⟨?_, fun _ => empty, unidle busy, hwaits⟩
    cases deadline with
    | none => exact .silence hdeadline.symm hlast
    | some deadline => exact .timedOut deadline hdeadline.symm hlast
  | standstill deadline state busy _ empty reception =>
    obtain ⟨hlast, hwaits⟩ := h.waited reception rfl empty
    exact ⟨.standstill _ hlast, fun _ => empty, unidle busy, hwaits⟩

/-! ## Whole sessions -/

/-- What at most so many rounds of a session have come to, by its contacts. -/
structure Accounted (env : Environment World) (task : TaskSpec) (options : SupervisorOptions)
    (rounds : Nat) (log : List Contact) (first : Instant) (told : List (Message × Instant))
    (ended : Option Ending × Session World) : Prop where
  account : Account (.initial task options.scheduling) first told ended.2.supervisor
    ended.2.backlog log
  /-- Each round hands one message over, but for the one that ends the session. -/
  handed : told.length ≤ rounds ∧ (ended.1 = none ↔ told.length = rounds)
  /-- Only what is received keeps a session going, once all attempts may have been made. -/
  bounded : task.allowance + (log.filterMap received?).length < rounds → ended.1 ≠ none
  /-- The first wait that brings no message ends the session. -/
  unanswered : ∀ deadline reception, .waited deadline reception ∈ log →
    (∀ message, reception ≠ .message message) →
      ended.1 ≠ none ∧ log.getLast? = some (.waited deadline reception)
  /-- At the end all refusals were handed over, unless the session breaks off. -/
  emptied : ended.1 ≠ none → ended.1 ≠ some .brokenOff → ended.2.backlog = []
  /-- Where the task is decided and nothing is in flight, there is no wait before the end. -/
  idle : ended.1 ≠ none → ended.2.supervisor.isBusy = false →
    ended.1 = some (.finished ended.2.supervisor.result) ∧
      ∀ deadline reception, log.getLast? ≠ some (.waited deadline reception)
  finished : ∀ result, ended.1 = some (.finished result) → result = ended.2.supervisor.result ∧
    (∃ decision later, ended.2.supervisor.schedule.decision = some decision ∧
      result.statuses = [⟨.active, first, none⟩, decision.statusEntry later] ∧
      result.status = (decision.statusEntry later).status ∧
      result.status.isTerminal = true) ∧
    (result.openIds ≠ [] → ∃ deadline,
      log.getLast? = some (.waited (some deadline) .silence) ∨
      log.getLast? = some (.waited (some deadline) .closed))
  cutOff : ended.1 = some .cutOff ↔ ended.2.supervisor.schedule.decision = none ∧
    ∃ deadline, log.getLast? = some (.waited deadline .closed)
  hung : ended.1 = some .hung ↔ log.getLast? = some (.waited none .silence) ∨
    ∃ deadline, log.getLast? = some (.waited deadline .standstill)
  brokenOff : ended.1 = some .brokenOff → ended.2.supervisor.schedule.decision ≠ none ∧
    env.horizon.nanos < (env.uptime ended.2.world).nanos + options.drainTimeout.nanos

section Accounted

variable {task : TaskSpec} {options : SupervisorOptions} {log : List Contact} {rounds made : Nat}

theorem Underway.accounted {last : Session World}
    (h : Underway (.initial task options.scheduling) rounds (last.withLog log)) :
    ∃ first told, Accounted env task options rounds log first told (none, last) := by
  obtain ⟨first, told, hmade, haccount⟩ := h.account
  have hcame := haccount.told_le (Supervisor.initial_fresh task options.scheduling)
  have hunended {ending : Ending} : (none : Option Ending) ≠ some ending := nofun
  exact ⟨first, told, {
    account := haccount
    handed := ⟨hmade.le, fun _ => hmade, fun _ => rfl⟩
    bounded := fun hless => absurd (hmade ▸ hcame) (Nat.not_le.mpr hless)
    unanswered := fun deadline reception hmem hnone => by
      obtain ⟨message, hmessage⟩ := h.answered deadline reception hmem
      exact absurd hmessage (hnone message)
    emptied := fun hends => absurd rfl hends
    idle := fun hends => absurd rfl hends
    finished := fun _ hfinished => absurd hfinished hunended
    cutOff := by
      refine ⟨fun hcut => absurd hcut hunended, ?_⟩
      rintro ⟨_, deadline, hwaited⟩
      exact absurd hwaited (h.last deadline .closed)
    hung := by
      refine ⟨fun hhung => absurd hhung hunended, ?_⟩
      rintro (hwaited | ⟨deadline, hwaited⟩)
      · exact absurd hwaited (h.last none .silence)
      · exact absurd hwaited (h.last deadline .standstill)
    brokenOff := fun hbroken => absurd hbroken hunended }⟩

end Accounted

end Session

end Overseer
