import Overseer.Policy

/-!
# The failure budget

A `FailureBudget` counts failed attempts and processes that failed for good. It
is exceeded once the count that its policy looks at is greater than the limit; a
limit of zero is never exceeded.
-/

namespace Overseer

structure FailureBudget where
  limit : UInt32
  counting : FailureCounting
  failedProcesses : UInt32 := 0
  failedAttempts : UInt32 := 0
  deriving DecidableEq, Inhabited

namespace FailureBudget

/-- Records one failed attempt; `terminal` marks the one after which its process
is given up. -/
def record (budget : FailureBudget) (terminal : Bool) : FailureBudget :=
  { budget with
    failedAttempts := budget.failedAttempts + 1
    failedProcesses := if terminal then budget.failedProcesses + 1 else budget.failedProcesses }

/-- The count that is compared with the limit. -/
def count (budget : FailureBudget) : UInt32 :=
  match budget.counting with
  | .processes => budget.failedProcesses
  | .attempts => budget.failedAttempts

def exceeded (budget : FailureBudget) : Bool :=
  budget.limit ≠ 0 && budget.limit < budget.count

end FailureBudget

end Overseer
