import Overseer.Rehearsal.Script
import Overseer.Supervisor.Session

/-!
# Rehearsals

A rehearsal is a session whose attempts follow a `Script`. The completion of an
attempt is sent when the attempt is started, with the time of the clock as its
start. Messages wait in a channel with a limited number of places; sending to a
full channel brings the rehearsal to a standstill, because nobody takes messages
out while a request is being answered.
-/

namespace Overseer

/-- The state of a rehearsal. -/
structure Rehearsal where
  script : Script
  clock : Clock
  /-- The messages that were sent and not received yet. -/
  channel : List Message
  /-- The places of the channel. -/
  places : Nat := 1024
  /-- Whether the channel stays open when it is empty. -/
  staysOpen : Bool := true
  atStandstill : Bool := false
  /-- The attempts that hang. -/
  hung : List AttemptId := []
  /-- All attempts that were started. -/
  launched : List Attempt := []
  /-- All attempts that were asked to stop. -/
  stopped : List AttemptId := []
  events : List Event := []
  /-- The time gone by before the rehearsal, which takes none itself. -/
  uptime : Span := .zero

namespace Rehearsal

def readClock (rehearsal : Rehearsal) : Instant × Rehearsal :=
  let (now, clock) := rehearsal.clock.read
  (now, { rehearsal with clock })

/-- Sends the completion of an attempt that starts now. -/
def complete (rehearsal : Rehearsal) (id : AttemptId) (outcome : Outcome) : Rehearsal :=
  let (startedAt, rehearsal) := rehearsal.readClock
  let endedAt := startedAt.later (rehearsal.script.durationOf id.process)
  if rehearsal.channel.length < rehearsal.places then
    { rehearsal with
      channel := rehearsal.channel ++ [.completed id ⟨outcome, startedAt, endedAt⟩] }
  else { rehearsal with atStandstill := true }

def refusal (process : ProcessName) : String := "scripted refusal to start '" ++ process ++ "'"

def startAttempt (attempt : Attempt) (rehearsal : Rehearsal) : Except String Unit × Rehearsal :=
  if rehearsal.atStandstill then (.ok (), rehearsal)
  else if attempt.id.process ∈ rehearsal.script.refused then
    (.error (refusal attempt.id.process), rehearsal)
  else
    let logged := { rehearsal with launched := rehearsal.launched ++ [attempt] }
    match rehearsal.script.cueFor attempt.id with
    | .exit outcome => (.ok (), logged.complete attempt.id outcome)
    | .hang => (.ok (), { logged with hung := attempt.id :: logged.hung })

def stopAttempt (rehearsal : Rehearsal) (id : AttemptId) : Rehearsal :=
  if rehearsal.atStandstill then rehearsal
  else
    let logged := { rehearsal with stopped := rehearsal.stopped ++ [id] }
    if id ∈ logged.hung then
      let ended := { logged with hung := logged.hung.erase id }
      if ended.script.reportsStops then ended.complete id .noExitCode else ended
    else logged

def receive (rehearsal : Rehearsal) : Reception × Rehearsal :=
  if rehearsal.atStandstill then (.standstill, rehearsal)
  else
    match rehearsal.channel with
    | message :: rest => (.message message, { rehearsal with channel := rest })
    | [] => (if rehearsal.staysOpen then .silence else .closed, rehearsal)

def record (event : Event) (rehearsal : Rehearsal) : Rehearsal :=
  if rehearsal.atStandstill then rehearsal
  else { rehearsal with events := rehearsal.events ++ [event] }

/-- The environment of a rehearsal, in which no time goes by between the sending
and the receiving of a message. -/
def environment : Environment Rehearsal where
  readClock := readClock
  uptime := uptime
  horizon := .lastUptime
  record event rehearsal := (.ok (), rehearsal.record event)
  start := startAttempt
  stop ids rehearsal := (.ok (), ids.foldl stopAttempt rehearsal)
  receive _ rehearsal := rehearsal.receive

/-- Rehearses a task. -/
def run (task : TaskSpec) (options : SupervisorOptions) (rehearsal : Rehearsal) :
    Option Ending × Rehearsal :=
  Session.supervise environment task options rehearsal.channel.length rehearsal

/-- The rehearsal of a script with the standard clock, after the given messages, begun
at the given uptime. -/
def ofScript (script : Script) (queued : List Message) (uptime : Span) : Rehearsal where
  script
  clock := .standard
  channel := queued
  uptime

end Rehearsal

end Overseer
