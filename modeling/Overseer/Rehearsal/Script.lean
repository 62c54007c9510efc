import Overseer.Attempt

/-!
# Scripts

A `Script` says beforehand how every attempt of a task will go. Attempt `n` of a
process takes its cue number `n`; the last cue repeats.
-/

namespace Overseer

/-- What one attempt does. -/
inductive Cue
  | exit (outcome : Outcome)
  /-- The attempt ends only when it is stopped. -/
  | hang
  deriving DecidableEq, Inhabited

structure Script where
  /-- The cues of each process. Where a process stands twice, the first counts. -/
  cues : List (ProcessName × List Cue) := []
  /-- The run time that is reported for the attempts of a process. -/
  durations : List (ProcessName × Span) := []
  /-- The processes that cannot be started. -/
  refused : List ProcessName := []
  /-- Whether a hanging attempt reports a failure when it is stopped. -/
  reportsStops : Bool := true
  /-- What a process without cues does. -/
  otherwise : Cue := .exit .success
  deriving Inhabited

namespace Script

def defaultDuration : Span := .ofSeconds 10

/-- The longest run time that can be reported, a number of milliseconds. -/
def longestDuration : Span := .ofMillis 9223372036854775807

/-- The cue of an attempt. -/
def cueFor (script : Script) (id : AttemptId) : Cue :=
  match script.cues.lookup id.process with
  | some (first :: rest) =>
    (first :: rest)[min id.index.toNat rest.length]?.getD first
  | _ => script.otherwise

/-- The run time of a process; zero where it cannot be reported. -/
def durationOf (script : Script) (process : ProcessName) : Span :=
  let duration := (script.durations.lookup process).getD defaultDuration
  if longestDuration.nanos < duration.nanos then .zero else duration

/-! ## Building scripts -/

def withCues (script : Script) (process : ProcessName) (cues : List Cue) : Script :=
  { script with cues := (process, cues) :: script.cues }

def outcomes (script : Script) (process : ProcessName) (outcomes : List Outcome) : Script :=
  script.withCues process (outcomes.map .exit)

def succeed (script : Script) (process : ProcessName) : Script :=
  script.outcomes process [.success]

/-- Every attempt exits with code 1. -/
def fail (script : Script) (process : ProcessName) : Script :=
  script.outcomes process [.failure 1]

def hang (script : Script) (process : ProcessName) : Script := script.withCues process [.hang]

def refuseStart (script : Script) (process : ProcessName) : Script :=
  { script with refused := process :: script.refused }

def duration (script : Script) (process : ProcessName) (duration : Span) : Script :=
  { script with durations := (process, duration) :: script.durations }

/-- The script in which no attempt ever reports. -/
def mute (refused : List ProcessName) : Script :=
  { refused, reportsStops := false, otherwise := .hang }

end Script

end Overseer
