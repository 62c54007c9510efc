import Overseer.Supervisor.Basic

/-!
# Sessions

A `Session` carries a supervision out in an `Environment`, which runs the
attempts, keeps the event log and delivers messages one at a time.

Attempts that the environment refuses to start are reported to the supervisor in
the order of their launch, before any message is received. Once the task is
decided the session waits for the attempts in flight, but only until the drain
timeout has gone by. A drain timeout that goes beyond the times that the clock can
tell breaks the session off.
-/

namespace Overseer

/-! ## Environments -/

/-- What a wait for a message brings. -/
inductive Reception
  | message (message : Message)
  /-- Nobody is left who could send a message. -/
  | closed
  /-- No message comes before the deadline, or none ever where there is none. -/
  | silence
  /-- The environment came to a standstill over an earlier request. -/
  | standstill
  deriving DecidableEq, Inhabited

/-- The surroundings of a session. Requests are answered at once; one that fails
says why. -/
structure Environment (World : Type) where
  readClock : World → Instant × World
  /-- The time gone by since the outset. -/
  uptime : World → Span
  /-- The last uptime that can be told. -/
  horizon : Span
  record : Event → World → Except String Unit × World
  start : Attempt → World → Except String Unit × World
  stop : List AttemptId → World → Except String Unit × World
  /-- Waits for the next message, at most until the given uptime. -/
  receive : Option Span → World → Reception × World

namespace Environment

variable {World : Type} (env : Environment World)

/-- The uptime after a wait that begins now; none where it cannot be told. -/
def deadline? (wait : Span) (world : World) : Option Span :=
  Span.plus? env.horizon (env.uptime world) wait

/-- Records events. An event that the log refuses is lost. -/
def recordAll (events : List Event) (world : World) : World :=
  events.foldl (fun world event => (env.record event world).2) world

/-- Starts attempts; those that are refused come back as messages. -/
def startAll : List Attempt → World → List Message × World
  | [], world => ([], world)
  | attempt :: rest, world =>
    let (answer, world) := env.start attempt world
    let (refused, world) := startAll rest world
    match answer with
    | .ok () => (refused, world)
    | .error reason => (.startFailed attempt.id reason :: refused, world)

/-- Executes commands. A stop that fails is not tried again. -/
def execute : List Command → World → List Message × World
  | [], world => ([], world)
  | .dispatch attempts :: rest, world =>
    let (refused, world) := env.startAll attempts world
    let (more, world) := execute rest world
    (refused ++ more, world)
  | .stop attempts :: rest, world => execute rest (env.stop attempts world).2

/-- Reports the events of a reaction, then executes its commands. -/
def carryOut (reaction : Reaction) (world : World) : List Message × World :=
  env.execute reaction.commands (env.recordAll reaction.events world)

end Environment

/-! ## Sessions -/

structure SupervisorOptions where
  scheduling : SchedulerOptions := {}
  /-- How long a decided task waits for the attempts in flight. -/
  drainTimeout : Span := .ofSeconds 5
  deriving DecidableEq, Inhabited

structure Session (World : Type) where
  supervisor : Supervisor
  /-- The refused attempts that the supervisor was not told of yet. -/
  backlog : List Message
  /-- The uptime at which the session ends, set once the task is decided. -/
  deadline : Option Span
  world : World

/-- How a session ends. -/
inductive Ending
  | finished (result : TaskResult)
  /-- No message can come any more, but the task is not decided. -/
  | cutOff
  /-- The session waits for ever. -/
  | hung
  /-- The drain timeout ends at a time that cannot be told. -/
  | brokenOff
  deriving DecidableEq, Inhabited

/-- The fault of a session that is cut off. -/
def Ending.cutOffMessage : String := "runtime event channel closed before the task was decided"

/-- The fault of a session that breaks off. -/
def Ending.brokenOffMessage : String := "overflow when adding duration to instant"

namespace Session

variable {World : Type} (env : Environment World)

/-- Takes over a reaction of the supervisor. -/
def follow (session : Session World) (supervisor : Supervisor) (reaction : Reaction)
    (world : World) : Session World :=
  let (refused, world) := env.carryOut reaction world
  { session with supervisor, backlog := session.backlog ++ refused, world }

/-- Starts the supervisor. -/
def start (supervisor : Supervisor) (world : World) : Session World :=
  let (now, world) := env.readClock world
  let (started, reaction) := supervisor.start now
  follow env ⟨supervisor, [], none, world⟩ started reaction world

/-- Hands a message to the supervisor. -/
def handle (session : Session World) (message : Message) (world : World) : Session World :=
  let (now, world) := env.readClock world
  let (next, reaction) := session.supervisor.handle message now
  session.follow env next reaction world

/-- Sets the deadline if the task is decided and has none yet; none where the deadline
cannot be told. -/
def withDeadline? (session : Session World) (drainTimeout : Span) : Option (Session World) :=
  if session.supervisor.isDecided && session.deadline.isNone then
    (env.deadline? drainTimeout session.world).map fun deadline =>
      { session with deadline := some deadline }
  else some session

/-- One round: hands the next message over, or ends. -/
def step (drainTimeout : Span) (session : Session World) : Option Ending × Session World :=
  if !session.supervisor.isBusy then (some (.finished session.supervisor.result), session)
  else
    match session.withDeadline? env drainTimeout with
    | none => (some .brokenOff, session)
    | some session =>
      match session.backlog with
      | message :: rest =>
        (none, { session with backlog := rest }.handle env message session.world)
      | [] =>
        let (reception, world) := env.receive session.deadline session.world
        let waited := { session with world }
        match reception with
        | .message message => (none, session.handle env message world)
        | .closed =>
          (some (if session.supervisor.isDecided then .finished session.supervisor.result
            else .cutOff), waited)
        | .silence =>
          (some (if session.deadline.isSome then .finished session.supervisor.result else .hung),
            waited)
        | .standstill => (some .hung, waited)

/-- At most so many rounds; no ending if they do not suffice. -/
def run (drainTimeout : Span) : Nat → Session World → Option Ending × Session World
  | 0, session => (none, session)
  | rounds + 1, session =>
    match session.step env drainTimeout with
    | (none, next) => run drainTimeout rounds next
    | ended => ended

/-- The rounds that the supervision of a task takes at most: one for each message
that waits at the outset, one for each attempt that can be made, and the last. -/
def rounds (task : TaskSpec) (waiting : Nat) : Nat :=
  waiting + task.processes.foldr (fun process sum => process.maxFailures.toNat + sum) 0 + 1

/-- Supervises a task from its start to its end, in a world where so many messages
wait at the outset. -/
def supervise (task : TaskSpec) (options : SupervisorOptions) (waiting : Nat) (world : World) :
    Option Ending × World :=
  let supervisor := Supervisor.initial task options.scheduling
  let (ending, session) :=
    (start env supervisor world).run env options.drainTimeout (rounds task waiting)
  (ending, session.world)

end Session

end Overseer
