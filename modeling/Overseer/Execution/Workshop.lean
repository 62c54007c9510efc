import Overseer.Execution.System
import Overseer.Machine.Turn
import Overseer.Supervisor.Session

/-!
# Workshops

A `Workshop` carries attempts out: it waits for their restart delay, runs their
command lines on a machine, and sends their completions. Its time is the uptime of
the machine, which goes on only while the workshop waits.

An attempt is known until it has ended or another attempt of its process is
started. Only a known attempt can be stopped. One that is forgotten during its
delay ends at once; one that is running goes on.
-/

namespace Overseer

/-- Where the time of day comes from: a clock that steps at each reading, or one
that goes with the time of the workshop. -/
inductive Timepiece
  | stepping (clock : Clock)
  | flowing (start : Instant)

/-- How far an attempt has come. -/
inductive Stage
  | delayed
  | starting (startedAt : Instant)
  | running (startedAt : Instant) (process : ProcessId)
  | killed (startedAt : Instant)

structure Job where
  id : AttemptId
  cmdline : String
  stage : Stage
  /-- When the job goes on; that is up to its process if there is no such time. -/
  wakesAt : Option Span
  known : Bool := true

structure Workshop where
  machine : Machine
  /-- The folder in which command lines are carried out. -/
  folder : Nat
  environment : List (Octets × Octets) := System.environment
  timepiece : Timepiece
  jobs : List Job := []
  /-- The completions that were sent and not received yet. -/
  channel : List Message := []
  /-- The file that takes the events. -/
  eventLog : Option Nat := none
  /-- What was logged. -/
  logged : String := ""

namespace Workshop

def uptime (workshop : Workshop) : Span := workshop.machine.uptime

def tree (workshop : Workshop) : FileTree := workshop.machine.tree

/-- A workshop with files in the folder that it works in. -/
def withFiles (files : List (String × ByteArray)) (timepiece : Timepiece) : Workshop :=
  let (tree, folder) := System.disk
  let tree := files.foldl (fun tree (name, content) =>
    ((tree.write folder (Octets.ofText name) content 0o644).toOption).getD tree) tree
  { machine := { tree }, folder, timepiece }

def readClock (workshop : Workshop) : Instant × Workshop :=
  match workshop.timepiece with
  | .stepping clock =>
    let (now, clock) := clock.read
    (now, { workshop with timepiece := .stepping clock })
  | .flowing start => (start.later workshop.uptime, workshop)

def send (workshop : Workshop) (id : AttemptId) (report : Report) : Workshop :=
  { workshop with channel := workshop.channel ++ [.completed id report] }

/-- The time between the start of an attempt and the first command of its command
line. -/
def spawnTime : Span := .ofMillis 1

/-- The time that a killed attempt takes to end. -/
def killTime : Span := ⟨spawnTime.nanos / 2⟩

def after (workshop : Workshop) (span : Span) : Span := ⟨workshop.uptime.nanos + span.nanos⟩

def add (workshop : Workshop) (job : Job) : Workshop :=
  { workshop with jobs := workshop.jobs ++ [job] }

/-! ## The course of a job -/

/-- Sends the completion of a job that ends now. -/
def finish (workshop : Workshop) (job : Job) (startedAt : Instant) (outcome : Outcome) :
    Workshop :=
  let (endedAt, workshop) := workshop.readClock
  workshop.send job.id ⟨outcome, startedAt, endedAt⟩

/-- Sends the completion of a job that ends before it started. -/
def abandon (workshop : Workshop) (job : Job) : Workshop :=
  let (now, workshop) := workshop.readClock
  workshop.send job.id (.notStarted now)

/-- The outcome of a command line that ended. -/
def outcomeOf : Departure → Outcome
  | .exited status => if status = 0 then .success else .failure (Int32.ofNat status)
  | .ended _ => .noExitCode

/-- The number of bytes that a command line must stay below. -/
def cmdlineLimit : Nat := 131072

/-- Whether a command line can be handed to a process. -/
def isRunnable (cmdline : String) : Bool :=
  !cmdline.contains '\x00' && cmdline.utf8ByteSize < cmdlineLimit

/-- Starts a job, unless its command line cannot be run. -/
def begin (workshop : Workshop) (job : Job) : Workshop :=
  let (startedAt, workshop) := workshop.readClock
  if isRunnable job.cmdline then
    workshop.add
      { job with stage := .starting startedAt, wakesAt := some (workshop.after spawnTime) }
  else workshop.finish job startedAt .noExitCode

/-- The shell that carries a command line out. -/
def shellCourse (workshop : Workshop) (cmdline : String) : Course :=
  System.launch "sh"
    { name := "sh", arguments := ["-c", Octets.ofText cmdline]
      environment := workshop.environment, folder := workshop.folder }

/-- Gives a job a process of its own. -/
def spawn (workshop : Workshop) (job : Job) (startedAt : Instant) : Workshop :=
  let machine := workshop.machine
  let outlet := machine.outlets.size
  let machine := { machine with outlets := (machine.outlets.push {}).push {} }
  let (machine, input) := machine.provide (.text "")
  let (machine, output) := machine.provide (.outlet outlet)
  let (machine, notices) := machine.provide (.outlet (outlet + 1))
  let id := machine.nextId
  let process : Process :=
    { id, parent := Machine.outside, course := workshop.shellCourse job.cmdline
      descriptors := [(0, input), (1, output), (2, notices)] }
  let machine :=
    { machine with processes := machine.processes ++ [process], nextId := id + 1 }
  { workshop with machine }.add { job with stage := .running startedAt id, wakesAt := none }

/-- Lets a job go on. -/
def wake (workshop : Workshop) (job : Job) : Workshop :=
  match job.stage with
  | .delayed => workshop.begin job
  | .starting startedAt => workshop.spawn job startedAt
  | .running .. => workshop.add job
  | .killed startedAt => workshop.finish job startedAt .noExitCode

/-- Finishes the job of a process that has ended. -/
def settle (workshop : Workshop) (process : ProcessId) (departure : Departure) : Workshop :=
  let isMeant (job : Job) : Bool :=
    match job.stage with
    | .running _ id => id = process
    | _ => false
  match workshop.jobs.find? isMeant with
  | some { stage := .running startedAt _, id, cmdline, wakesAt, known } =>
    let job : Job := ⟨id, cmdline, .killed startedAt, wakesAt, known⟩
    { workshop with jobs := workshop.jobs.eraseP isMeant }.finish job startedAt
      (outcomeOf departure)
  | _ => workshop

/-- Finishes the jobs whose processes have ended. -/
def settleAll (workshop : Workshop) : Workshop :=
  let (ended, others) := workshop.machine.departed.partition (·.2.1 = Machine.outside)
  ended.foldl (fun workshop (process, _, departure) => workshop.settle process departure)
    { workshop with machine := { workshop.machine with departed := others } }

/-! ## Requests -/

/-- Forgets the known attempts of a process. -/
def forget (workshop : Workshop) (process : ProcessName) : Workshop :=
  let isForgotten (job : Job) : Bool := job.known && job.id.process = process
  let isDropped (job : Job) : Bool :=
    isForgotten job &&
      match job.stage with
      | .delayed => true
      | _ => false
  let dropped := workshop.jobs.filter isDropped
  let kept := workshop.jobs.filter fun job => !isDropped job
  dropped.foldl abandon
    { workshop with
      jobs := kept.map fun job => { job with known := job.known && !isForgotten job } }

/-- Starts an attempt, after its restart delay. It has begun by the time that the
older attempts of its process are forgotten. -/
def startAttempt (workshop : Workshop) (id : AttemptId) (cmdline : String)
    (restartDelay : Span) : Workshop :=
  let job : Job := { id, cmdline, stage := .delayed, wakesAt := some (workshop.after restartDelay) }
  let empty := { workshop with jobs := [] }
  let started := if restartDelay = .zero then empty.begin job else empty.add job
  let older := { started with jobs := workshop.jobs }.forget id.process
  { older with jobs := older.jobs ++ started.jobs }

/-- Kills a job that has started. Its children go on. -/
def kill (workshop : Workshop) (job : Job) (startedAt : Instant) : Workshop :=
  let machine :=
    match job.stage with
    | .running _ process =>
      let machine := workshop.machine.signal [process] Signal.kill
      { machine with departed := machine.departed.filter (·.1 ≠ process) }
    | _ => workshop.machine
  { workshop with machine }.add
    { job with
      stage := .killed startedAt, wakesAt := some (workshop.after killTime), known := false }

def stopAttempt (workshop : Workshop) (id : AttemptId) : Workshop :=
  let isMeant (job : Job) : Bool := job.known && job.id = id
  match workshop.jobs.find? isMeant with
  | none => workshop
  | some job =>
    let others := { workshop with jobs := workshop.jobs.eraseP isMeant }
    match job.stage with
    | .delayed => others.abandon job
    | .starting startedAt | .running startedAt _ | .killed startedAt => others.kill job startedAt

/-! ## Waiting -/

/-- The earliest uptime at which one of the jobs goes on. -/
def nextWake? (jobs : List Job) : Option Nat :=
  (jobs.filterMap fun job => job.wakesAt.map (·.nanos)).min?

/-- Lets the job go on that is due first, if it is due by now. -/
def wakeNext? (workshop : Workshop) : Option Workshop := do
  let time ← nextWake? workshop.jobs
  let isNext (job : Job) : Bool := job.wakesAt = some ⟨time⟩
  let job ← workshop.jobs.find? isNext
  if time ≤ workshop.uptime.nanos then
    some ({ workshop with jobs := workshop.jobs.eraseP isNext }.wake job)
  else none

/-- The earliest time at which a job or a process goes on that waits now. -/
def nextTime? (workshop : Workshop) : Option Nat :=
  ((nextWake? workshop.jobs).toList ++ (workshop.machine.nextWake?.map (·.nanos)).toList).min?

def passTo (workshop : Workshop) (time : Span) : Workshop :=
  { workshop with machine := workshop.machine.waitUntil time }

/-- Does what comes next: a job goes on, or the processes do, or the time passes. None if
nothing comes up to the given uptime. -/
def advance? (workshop : Workshop) (deadline : Option Span) : Option Workshop :=
  match workshop.wakeNext? with
  | some workshop => some workshop
  | none =>
    if deadline.any fun limit => limit.nanos < workshop.uptime.nanos then none
    else
      match workshop.machine.pass with
      | (machine, true) => some { workshop with machine }.settleAll
      | (machine, false) => do
        let workshop := { workshop with machine }
        let time ← workshop.nextTime?
        if deadline.all fun limit => time ≤ limit.nanos then some (workshop.passTo ⟨time⟩) else none

/-- Waits for the next completion, at most until the given uptime and for so many
things to happen. -/
def receive (deadline : Option Span) : (happenings : Nat) → Workshop → Reception × Workshop
  | 0, workshop => (.silence, workshop)
  | happenings + 1, workshop =>
    match workshop.channel with
    | message :: rest => (.message message, { workshop with channel := rest })
    | [] =>
      match workshop.advance? deadline with
      | some workshop => receive deadline happenings workshop
      | none => (.silence, workshop.passTo (deadline.getD workshop.uptime))

/-- Lets time go by until the given uptime. -/
def waitUntil (deadline : Span) : (happenings : Nat) → Workshop → Workshop
  | 0, workshop => workshop
  | happenings + 1, workshop =>
    match workshop.advance? (some deadline) with
    | some workshop => waitUntil deadline happenings workshop
    | none => workshop.passTo deadline

/-- The number of things that a wait looks at before it is given up. -/
def patience : Nat := 1000000

/-! ## The environment -/

/-- Logs an event and appends it to the event log. What a device refuses is lost. -/
def record (event : Event) (workshop : Workshop) : Except String Unit × Workshop :=
  let workshop := { workshop with logged := workshop.logged ++ event.logRecord }
  match workshop.eventLog with
  | none => (.ok (), workshop)
  | some node =>
    let tree := workshop.tree
    let content := (tree.content node).toOption.getD .empty
    let tree := tree.setContent node (content ++ (event.line ++ "\n").toUTF8)
    (.ok (), { workshop with machine := { workshop.machine with tree } })

def attemptEnvironment : Environment Workshop where
  readClock := readClock
  uptime := uptime
  horizon := .lastUptime
  record := record
  start attempt workshop :=
    (.ok (), workshop.startAttempt attempt.id attempt.cmdline attempt.restartDelay)
  stop ids workshop := (.ok (), ids.foldl stopAttempt workshop)
  receive deadline workshop := workshop.receive deadline patience

end Workshop

end Overseer
