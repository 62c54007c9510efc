import Overseer.Precedence.Basic

/-!
# Launch orders

`Precedence.ofConstraints` finds an order of the processes in which each stands
after its predecessors. A depth-first walk along the constraints lists the
processes in the reverse of the order in which it leaves them. On a graph without
cycles that list is a launch order; on any other graph some process of the list
stands before one of its predecessors, and the last such predecessor of the first
such process is reported.
-/

namespace Overseer

/-! ## Depth-first order -/

/-- Walks depth first from the names on the stack. A name that is met for the
first time stays on the stack below its successors; it is left, and put in front
of `left`, when it comes to the top again. `unseen` holds the names that were not
met so far. -/
def depthFirst (next : ProcessName → List ProcessName) (unseen left : List ProcessName) :
    List ProcessName → List ProcessName
  | [] => left
  | top :: below =>
    if top ∈ unseen then
      let unseen' := unseen.erase top
      depthFirst next unseen' left
        (((next top).filter (· ∈ unseen')).reverse ++ top :: below)
    else if top ∈ left then depthFirst next unseen left below
    else depthFirst next unseen (top :: left) below
termination_by stack => (unseen.length, stack.length)
decreasing_by
  · have := List.length_erase_of_mem ‹top ∈ unseen›
    have := List.length_pos_of_mem ‹top ∈ unseen›
    exact Prod.Lex.left _ _ (by omega)
  · exact Prod.Lex.right _ (by simp)
  · exact Prod.Lex.right _ (by simp)

/-- The names, latest left first. -/
def finishOrder (names : List ProcessName) (edges : List Constraint) : List ProcessName :=
  depthFirst (successorsIn edges) names [] names

/-! ## The check -/

/-- The first name of a list that stands before one of its predecessors gives
the last of these; `before` holds the names already passed. -/
def latePredecessor? (edges : List Constraint) (before : List ProcessName) :
    List ProcessName → Option ProcessName
  | [] => none
  | name :: rest =>
    let before' := name :: before
    match ((predecessorsIn edges name).filter (· ∉ before')).getLast? with
    | some late => some late
    | none => latePredecessor? edges before' rest

/-- A launch order of the names, or a process on a cycle. -/
def launchOrder (names : List ProcessName) (edges : List Constraint) :
    Except ProcessName (List ProcessName) :=
  let order := finishOrder names edges
  match latePredecessor? edges [] order with
  | some late => .error late
  | none => .ok order

namespace Precedence

/-- The precedence of declared processes under constraints. Repeated names and
repeated constraints count once. -/
def ofConstraints (names : List ProcessName) (constraints : List Constraint) :
    Except PrecedenceError Precedence :=
  match constraints.findSome? (·.fault? names) with
  | some fault => .error fault
  | none =>
    let edges := constraints.eraseDups
    match launchOrder names.eraseDups edges with
    | .ok order => .ok ⟨order, edges⟩
    | .error process => .error (.cycle process)

end Precedence

end Overseer
