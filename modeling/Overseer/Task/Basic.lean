import Overseer.Time.Basic
import Overseer.Precedence.LaunchOrder

/-!
# Tasks

A task declares named processes, the order between them, how many failures it
tolerates and how many processes may run at a time. A `TaskDraft` is any such
declaration; a `TaskSpec` is one that passed `TaskDraft.check`: it has a process,
the names are distinct, every process may fail at least once before it is given
up, and the constraints have a launch order.
-/

namespace Overseer

/-- Quantities that a task asks for. They do not influence scheduling. -/
structure Resources where
  cpu : Float := 0.0
  ram : UInt64 := 0
  disk : UInt64 := 0
  deriving Inhabited

/-- One unit of work, run through the shell and retried on its own. -/
structure ProcessSpec where
  name : ProcessName
  cmdline : String
  /-- The failed attempt with this number is the last one. -/
  maxFailures : UInt32
  /-- The least run time of a healthy attempt. -/
  minDuration : Span
  deriving DecidableEq, Inhabited

/-- A task as declared. -/
structure TaskDraft where
  name : String
  resources : Resources
  /-- The number of failures that the task tolerates; zero for any number. -/
  maxFailures : UInt32
  /-- The number of processes that may run at a time; zero for any number. -/
  maxConcurrency : UInt64
  /-- In declaration order. -/
  processes : List ProcessSpec
  constraints : List Constraint
  deriving Inhabited

/-! ## Faults -/

/-- Why a declaration is refused. -/
inductive TaskError
  | noProcesses (task : String)
  | duplicateProcess (process : ProcessName)
  | zeroMaxFailures (process : ProcessName)
  | precedence (cause : PrecedenceError)
  deriving DecidableEq

def TaskError.message : TaskError → String
  | noProcesses task =>
    "Configuration error: task '" ++ task ++ "' must declare at least one process"
  | duplicateProcess process => "Duplicate process name: " ++ process
  | zeroMaxFailures process =>
    "Configuration error: process '" ++ process ++ "' must have max_failures >= 1"
  | precedence cause => cause.message

namespace TaskDraft

/-- The first fault in a list of processes: a name already in `seen`, or a
process that may not fail at all. -/
def processFault? (seen : List ProcessName) : List ProcessSpec → Option TaskError
  | [] => none
  | process :: rest =>
    if process.name ∈ seen then some (.duplicateProcess process.name)
    else if process.maxFailures = 0 then some (.zeroMaxFailures process.name)
    else processFault? (process.name :: seen) rest

def processNames (draft : TaskDraft) : List ProcessName := draft.processes.map (·.name)

/-- The precedence of a well-formed declaration, or its first fault. -/
def check (draft : TaskDraft) : Except TaskError Precedence :=
  if draft.processes.isEmpty then .error (.noProcesses draft.name)
  else
    match processFault? [] draft.processes with
    | some fault => .error fault
    | none =>
      match Precedence.ofConstraints draft.processNames draft.constraints with
      | .ok precedence => .ok precedence
      | .error cause => .error (.precedence cause)

end TaskDraft

/-! ## Checked tasks -/

/-- A declaration that passed its check, with the precedence found there. -/
structure TaskSpec extends TaskDraft where
  precedence : Precedence
  checked : toTaskDraft.check = .ok precedence

namespace TaskSpec

def ofDraft (draft : TaskDraft) : Except TaskError TaskSpec :=
  match checked : draft.check with
  | .ok precedence => .ok ⟨draft, precedence, checked⟩
  | .error fault => .error fault

/-- The declared process of the given name. -/
def process? (task : TaskSpec) (name : ProcessName) : Option ProcessSpec :=
  task.processes.find? (·.name = name)

end TaskSpec

end Overseer
