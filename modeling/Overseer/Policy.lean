import Overseer.Data.Json
import Overseer.Data.Value
import Overseer.Text.Blank
import Overseer.Text.Lowercase

/-!
# Policies

The two open points of supervision that a task file or a command line settles:
what the failure budget counts, and whether a quick failure delays the retry.
A policy given on a command line may have blanks around it and any letter case;
in a document only its exact name counts.
-/

namespace Overseer

/-- What the failure budget counts: processes that failed for good, or every
failed attempt whether or not it was retried. -/
inductive FailureCounting
  | processes
  | attempts
  deriving DecidableEq, Inhabited

/-- What the least run time of a process does: it is only recorded, or a retry
of an attempt that ended earlier waits for the rest of it. -/
inductive MinDurationPolicy
  | observe
  | delayRestart
  deriving DecidableEq, Inhabited

/-- A policy word that is not known. -/
structure UnknownPolicy where
  setting : String
  word : String
  admitted : String × String
  deriving DecidableEq

def UnknownPolicy.message (unknown : UnknownPolicy) : String :=
  "invalid " ++ unknown.setting ++ ": " ++ unknown.word ++ " (expected \"" ++
    unknown.admitted.1 ++ "\" or \"" ++ unknown.admitted.2 ++ "\")"

namespace FailureCounting

def name : FailureCounting → String
  | processes => "processes"
  | attempts => "attempts"

/-- The policy as a heading word. -/
def title : FailureCounting → String
  | processes => "Processes"
  | attempts => "Attempts"

def toJson (counting : FailureCounting) : Json := .string counting.name

def ofName? : String → Option FailureCounting
  | "processes" => some processes
  | "attempts" => some attempts
  | _ => none

def ofValue? (dialect : Dialect) (value : Value) : Option FailureCounting := do
  ofName? (← value.unitVariant? dialect)

def parse (text : String) : Except UnknownPolicy FailureCounting :=
  let word := Text.lower (Text.trim text)
  match ofName? word with
  | some counting => .ok counting
  | none => .error ⟨"failure_counting", word, (processes.name, attempts.name)⟩

end FailureCounting

namespace MinDurationPolicy

def name : MinDurationPolicy → String
  | observe => "observe"
  | delayRestart => "delay_restart"

/-- The policy as a heading word. -/
def title : MinDurationPolicy → String
  | observe => "Observe"
  | delayRestart => "DelayRestart"

def toJson (policy : MinDurationPolicy) : Json := .string policy.name

def ofName? : String → Option MinDurationPolicy
  | "observe" => some observe
  | "delay_restart" => some delayRestart
  | _ => none

def ofValue? (dialect : Dialect) (value : Value) : Option MinDurationPolicy := do
  ofName? (← value.unitVariant? dialect)

def parse (text : String) : Except UnknownPolicy MinDurationPolicy :=
  let word := Text.lower (Text.trim text)
  match ofName? word with
  | some policy => .ok policy
  | none => .error ⟨"min_duration_policy", word, (observe.name, delayRestart.name)⟩

end MinDurationPolicy

end Overseer
