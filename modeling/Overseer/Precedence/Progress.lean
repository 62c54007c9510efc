import Overseer.Precedence.Basic

/-!
# Progress through a precedence

`Progress` keeps which processes have succeeded and which have failed for good.
A process is eligible once all its predecessors have succeeded; it is blocked
once some process that it depends on, directly or not, has failed.
-/

namespace Overseer

/-- The facts recorded about the processes of a precedence. -/
structure Progress where
  succeeded : List ProcessName := []
  failed : List ProcessName := []
  blocked : List ProcessName := []
  deriving DecidableEq, Inhabited

/-- The names of `free` that are reached from the stack, in the order of the
visits. A visited name puts all its successors on the stack, the last on top. -/
def visits (next : ProcessName → List ProcessName) (free : List ProcessName) :
    List ProcessName → List ProcessName
  | [] => []
  | top :: below =>
    if top ∈ free then top :: visits next (free.erase top) ((next top).reverse ++ below)
    else visits next free below
termination_by stack => (free.length, stack.length)
decreasing_by
  · have := List.length_erase_of_mem ‹top ∈ free›
    have := List.length_pos_of_mem ‹top ∈ free›
    exact Prod.Lex.left _ _ (by omega)
  · exact Prod.Lex.right _ (by simp)

namespace Progress

/-- Whether every predecessor of a process has succeeded. -/
def eligible (progress : Progress) (precedence : Precedence) (process : ProcessName) : Bool :=
  process ∈ precedence.order &&
    (precedence.dependenciesOf process).all (· ∈ progress.succeeded)

/-- Whether the process can never start. -/
def isBlocked (progress : Progress) (process : ProcessName) : Bool :=
  process ∈ progress.blocked

def hasFailed (progress : Progress) (process : ProcessName) : Bool :=
  process ∈ progress.failed

/-- Records that a process succeeded. Undeclared names are passed over. -/
def recordSuccess (progress : Progress) (precedence : Precedence) (process : ProcessName) :
    Progress :=
  if process ∈ precedence.order then
    { progress with succeeded := progress.succeeded.insert process }
  else progress

/-- Records that a process failed for good, and blocks all that depends on it.
Also gives the processes that were not blocked before. -/
def recordFailure (progress : Progress) (precedence : Precedence) (process : ProcessName) :
    Progress × List ProcessName :=
  if process ∈ precedence.order then
    let free := precedence.order.filter (· ∉ progress.blocked)
    let newlyBlocked :=
      visits precedence.dependentsOf free (precedence.dependentsOf process).reverse
    ({ progress with
        failed := progress.failed.insert process
        blocked := progress.blocked ++ newlyBlocked }, newlyBlocked)
  else (progress, [])

end Progress

end Overseer
