import Overseer.Attempt

/-!
# The event stream

Every change of a run and every status of the task is an `Event`. `Event.line`
writes an event as one line of JSON, which is how the event log keeps it.
-/

namespace Overseer

/-- An entry of the status history of a task. -/
structure StatusEntry where
  status : TaskStatus
  timestamp : Instant
  /-- Given with a failure. -/
  reason : Option FailureReason := none
  deriving DecidableEq, Inhabited

namespace StatusEntry

def jsonFields (entry : StatusEntry) : List (String × Json) :=
  [("state", entry.status.toJson), ("timestamp", .string entry.timestamp.stamp)] ++
    match entry.reason with
    | some reason => [("reason", reason.toJson)]
    | none => []

def toJson (entry : StatusEntry) : Json := .object entry.jsonFields

end StatusEntry

/-- An entry of the event stream. -/
inductive Event
  | process (transition : Transition)
  | task (entry : StatusEntry)
  deriving DecidableEq, Inhabited

namespace Event

/-- The event as JSON; its field `type` tells the two kinds apart. -/
def toJson : Event → Json
  | process transition => .object (("type", .string "process") :: transition.jsonFields)
  | task entry => .object (("type", .string "task") :: entry.jsonFields)

/-- The event as one line of JSON. -/
def line (event : Event) : String := event.toJson.compact

/-- The event as a record of the program's own log. -/
def logRecord : Event → String
  | process transition =>
    " INFO process transition process=" ++ transition.id.process ++ " attempt=" ++
      Nat.repr transition.id.index.toNat ++ " from=" ++ transition.oldState.text ++ " to=" ++
      transition.newState.text ++ "\n"
  | task entry =>
    let reason :=
      match entry.reason with
      | some reason => " reason=" ++ reason.text
      | none => ""
    " INFO task state state=" ++ entry.status.text ++ reason ++ "\n"

end Event

end Overseer
