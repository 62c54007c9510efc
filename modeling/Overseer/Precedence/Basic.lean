/-!
# Precedence constraints

A constraint lets its successor start only after its predecessor has succeeded.
A `Precedence` keeps the distinct constraints of a task, in the order of their
first occurrence, together with an order of the processes in which each stands
after its predecessors.
-/

namespace Overseer

abbrev ProcessName := String

/-- `successor` may start only after `predecessor` has succeeded. -/
structure Constraint where
  predecessor : ProcessName
  successor : ProcessName
  deriving DecidableEq, Inhabited

/-- The constraints between neighbours of a list: `a, b, c` stands for `a` before
`b` and `b` before `c`. -/
def Constraint.chain : List ProcessName → List Constraint
  | a :: b :: rest => ⟨a, b⟩ :: chain (b :: rest)
  | _ => []

/-- The successors of a process, in the order of the constraints. -/
def successorsIn (edges : List Constraint) (process : ProcessName) : List ProcessName :=
  (edges.filter (·.predecessor = process)).map (·.successor)

/-- The predecessors of a process, in the order of the constraints. -/
def predecessorsIn (edges : List Constraint) (process : ProcessName) : List ProcessName :=
  (edges.filter (·.successor = process)).map (·.predecessor)

/-! ## Faults -/

/-- Why a list of constraints has no order. -/
inductive PrecedenceError
  | unknownProcess (process : ProcessName) (constraint : Constraint)
  | selfOrdered (process : ProcessName)
  | cycle (process : ProcessName)
  deriving DecidableEq

def PrecedenceError.message : PrecedenceError → String
  | unknownProcess process constraint =>
    "Unknown process '" ++ process ++ "' referenced in constraint '" ++
      constraint.predecessor ++ "' -> '" ++ constraint.successor ++ "'"
  | selfOrdered process =>
    "Cyclic ordering constraints: process '" ++ process ++ "' cannot be ordered after itself"
  | cycle process =>
    "Cyclic ordering constraints: cycle detected in ordering constraints involving process '" ++
      process ++ "'"

/-- What is wrong with a constraint on its own. -/
def Constraint.fault? (names : List ProcessName) (constraint : Constraint) :
    Option PrecedenceError :=
  if constraint.predecessor ∉ names then
    some (.unknownProcess constraint.predecessor constraint)
  else if constraint.successor ∉ names then
    some (.unknownProcess constraint.successor constraint)
  else if constraint.predecessor = constraint.successor then
    some (.selfOrdered constraint.predecessor)
  else none

/-! ## The structure -/

/-- The processes of a task in a launch order, and its distinct constraints. -/
structure Precedence where
  order : List ProcessName
  edges : List Constraint
  deriving DecidableEq, Inhabited

namespace Precedence

/-- The processes that must succeed before `process` may start. -/
def dependenciesOf (precedence : Precedence) (process : ProcessName) : List ProcessName :=
  predecessorsIn precedence.edges process

/-- The processes that wait for `process`. -/
def dependentsOf (precedence : Precedence) (process : ProcessName) : List ProcessName :=
  successorsIn precedence.edges process

/-- Whether some process waits for `process`. -/
def isPredecessor (precedence : Precedence) (process : ProcessName) : Bool :=
  !(precedence.dependentsOf process).isEmpty

/-- The processes that wait for nothing, in launch order. -/
def roots (precedence : Precedence) : List ProcessName :=
  precedence.order.filter fun process => (precedence.dependenciesOf process).isEmpty

end Precedence

end Overseer
