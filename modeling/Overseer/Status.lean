import Overseer.Data.Json
import Overseer.Data.Value

/-!
# States, outcomes and reasons

The words that a supervised task is described in: the state of a process and of
its runs, the status of the task, how an attempt ended, and why a task was
declared failed. Each has its written form and its JSON form, and is read back
from a document.
-/

namespace Overseer

/-! ## Processes -/

/-- The state of a process, or of one of its runs. A process starts pending, is
running from its first launch on, and ends in one of the two terminal states. -/
inductive ProcessState
  | pending
  | running
  | success
  | failed
  deriving DecidableEq, Inhabited

namespace ProcessState

def isTerminal : ProcessState → Bool
  | pending | running => false
  | success | failed => true

def text : ProcessState → String
  | pending => "PENDING"
  | running => "RUNNING"
  | success => "SUCCESS"
  | failed => "FAILED"

def toJson (state : ProcessState) : Json := .string state.text

def ofName? : String → Option ProcessState
  | "PENDING" => some pending
  | "RUNNING" => some running
  | "SUCCESS" => some success
  | "FAILED" => some failed
  | _ => none

def ofValue? (dialect : Dialect) (value : Value) : Option ProcessState := do
  ofName? (← value.unitVariant? dialect)

end ProcessState

/-! ## Tasks -/

/-- The status of a task; active until the decision. -/
inductive TaskStatus
  | active
  | success
  | failed
  deriving DecidableEq, Inhabited

namespace TaskStatus

def isTerminal : TaskStatus → Bool
  | active => false
  | success | failed => true

def text : TaskStatus → String
  | active => "ACTIVE"
  | success => "SUCCESS"
  | failed => "FAILED"

def toJson (status : TaskStatus) : Json := .string status.text

def ofName? : String → Option TaskStatus
  | "ACTIVE" => some active
  | "SUCCESS" => some success
  | "FAILED" => some failed
  | _ => none

def ofValue? (dialect : Dialect) (value : Value) : Option TaskStatus := do
  ofName? (← value.unitVariant? dialect)

end TaskStatus

/-! ## Attempts -/

/-- How an attempt ended. The code of a failure is `-1` where there is no exit
code to report. -/
inductive Outcome
  | success
  | failure (code : Int32)
  deriving DecidableEq, Inhabited

namespace Outcome

def isSuccess : Outcome → Bool
  | success => true
  | failure _ => false

/-- The outcome of an attempt without an exit code: killed, or never started. -/
def noExitCode : Outcome := .failure (-1)

def exitCode : Outcome → Int32
  | success => 0
  | failure code => code

/-- The state that the outcome leaves a run in. -/
def runState : Outcome → ProcessState
  | success => .success
  | failure _ => .failed

def toJson : Outcome → Json
  | success => .string "success"
  | failure code => .object [("failed", .number code.toInt)]

def ofValue? (dialect : Dialect) (value : Value) : Option Outcome :=
  match value.variant? with
  | some ("success", none) => some success
  | some ("success", some content) => if dialect.emptyContent content then some success else none
  | some ("failed", some content) => content.signed32?.map failure
  | _ => none

end Outcome

/-! ## Reasons -/

/-- Why a task was declared failed. -/
inductive FailureReason
  | dependencyFailed (process : String)
  | budgetExceeded (process : String) (failures limit : UInt32)
  | cancelled
  deriving DecidableEq, Inhabited

namespace FailureReason

def text : FailureReason → String
  | dependencyFailed process => "process '" ++ process ++ "' failed and has dependents"
  | budgetExceeded process failures limit =>
    "failure budget exceeded by '" ++ process ++ "' (" ++ Nat.repr failures.toNat ++ " > " ++
      Nat.repr limit.toNat ++ ")"
  | cancelled => "cancelled"

def toJson : FailureReason → Json
  | dependencyFailed process =>
    .object [("kind", .string "dependency_failed"), ("process", .string process)]
  | budgetExceeded process failures limit =>
    .object [("kind", .string "budget_exceeded"), ("process", .string process),
      ("failures", .number failures.toNat), ("limit", .number limit.toNat)]
  | cancelled => .object [("kind", .string "cancelled")]

/-- The reason of the given kind, its fields taken from `fields`. -/
def ofFields? (kind : String) (fields : List String → Option (List (String × Value))) :
    Option FailureReason :=
  match kind with
  | "dependency_failed" => do
    let found ← fields ["process"]
    some (dependencyFailed (← Value.required found "process" Value.text?))
  | "budget_exceeded" => do
    let found ← fields ["process", "failures", "limit"]
    some (budgetExceeded (← Value.required found "process" Value.text?)
      (← Value.required found "failures" Value.word32?)
      (← Value.required found "limit" Value.word32?))
  | "cancelled" => do
    let _ ← fields []
    some cancelled
  | _ => none

/-- A reason is a record whose field `kind` names it, or a list that starts with
that name; fields it does not know are passed over. -/
def ofValue? (dialect : Dialect) : Value → Option FailureReason
  | .record fields => do
    let kind ← Value.required fields "kind" Value.text?
    ofFields? kind fun names => (Value.record fields).fields? dialect names
  | .list (.text kind :: items) =>
    ofFields? kind fun names => (Value.list items).fields? ⟨false, dialect.emptyContent⟩ names
  | _ => none

end FailureReason

end Overseer
