import Overseer.Number.Shortest
import Overseer.Supervisor.Session
import Overseer.Text.Blank

/-!
# Task files

A task file describes a task, how it is supervised, and in which orders its
processes run. A `TaskFileDraft` is any such description; a `TaskFile` is one
whose task is well-formed. `TaskFileDraft.validate` reports the first fault: of
the name, the processes, the resources and the orders, then of the task itself.
-/

namespace Overseer

/-- A description of a task, not checked yet. -/
structure TaskFileDraft where
  options : SupervisorOptions := {}
  name : String
  resources : Resources := {}
  maxFailures : UInt32 := 1
  maxConcurrency : UInt64 := 0
  processes : List ProcessSpec := []
  /-- Lists of processes that run one after the other. -/
  orders : List (List ProcessName) := []
  deriving Inhabited

/-- A task with the options of its supervision. -/
structure TaskFile where
  options : SupervisorOptions
  task : TaskSpec

/-! ## Faults -/

/-- Why a description is refused. -/
inductive TaskFileError
  | emptyName
  | noProcesses
  | unusableCpu (cpu : Float)
  /-- The order at this position, counted from one, has too few processes. -/
  | shortOrder (position length : Nat)
  | task (fault : TaskError)

def TaskFileError.message : TaskFileError → String
  | emptyName => "Configuration error: [task].name must not be empty"
  | noProcesses =>
    "Configuration error: task file must contain at least one [[process]] section"
  | unusableCpu cpu =>
    "Configuration error: [task.resources].cpu must be a non-negative number (got " ++
      shortestText cpu ++ ")"
  | shortOrder position length =>
    "Configuration error: [[constraint]] #" ++ Nat.repr position ++
      " must list at least two processes in `order` (got " ++ Nat.repr length ++ ")"
  | task fault => fault.message

namespace TaskFileDraft

/-- The first order with fewer than two processes; `position` counts from there. -/
def shortOrder? (position : Nat) : List (List ProcessName) → Option TaskFileError
  | [] => none
  | order :: rest =>
    if order.length < 2 then some (.shortOrder position order.length)
    else shortOrder? (position + 1) rest

/-- The first fault that does not concern the task as a whole. -/
def fault? (draft : TaskFileDraft) : Option TaskFileError :=
  if (Text.trim draft.name).isEmpty then some .emptyName
  else if draft.processes.isEmpty then some .noProcesses
  else if !draft.resources.cpu.isFinite || draft.resources.cpu < 0.0 then
    some (.unusableCpu draft.resources.cpu)
  else shortOrder? 1 draft.orders

/-- The declaration of the task; each order is expanded into its constraints. -/
def task (draft : TaskFileDraft) : TaskDraft where
  name := draft.name
  resources := draft.resources
  maxFailures := draft.maxFailures
  maxConcurrency := draft.maxConcurrency
  processes := draft.processes
  constraints := draft.orders.flatMap Constraint.chain

def validate (draft : TaskFileDraft) : Except TaskFileError TaskFile :=
  match draft.fault? with
  | some fault => .error fault
  | none =>
    match TaskSpec.ofDraft draft.task with
    | .ok task => .ok ⟨draft.options, task⟩
    | .error fault => .error (.task fault)

end TaskFileDraft

end Overseer
