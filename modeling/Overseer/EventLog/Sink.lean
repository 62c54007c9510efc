import Overseer.EventLog.Basic

/-!
# Sinks

A sink takes the events of a supervision one by one: it keeps them, appends them
to a text as JSON lines, or puts them into the program's log. A group of sinks
passes each event to all of its members, whether or not one of them fails, and
fails with the first failure.
-/

namespace Overseer

/-! ## Writers -/

/-- A text that is written at its end. With a `room` it takes that many more
bytes and then refuses. -/
structure Writer where
  written : ByteArray := .empty
  room : Option Nat := none
  /-- The message of a refusal. -/
  refusal : String := ""
  deriving Inhabited

namespace Writer

/-- Writes as many bytes of the text as there is room for. -/
def write (writer : Writer) (text : String) : Except String Unit × Writer :=
  let bytes := text.toUTF8
  match writer.room with
  | none => (.ok (), { writer with written := writer.written ++ bytes })
  | some room =>
    let taken := bytes.extract 0 room
    let rest : Writer :=
      { writer with written := writer.written ++ taken, room := some (room - taken.size) }
    (if taken.size = bytes.size then .ok () else .error writer.refusal, rest)

/-- Writes an event as a line. -/
def writeEvent (writer : Writer) (event : Event) : Except String Unit × Writer :=
  writer.write (event.line ++ "\n")

/-- The written text. A character that was cut off at the end shows as the
replacement character. -/
def contents (writer : Writer) : String :=
  match String.fromUTF8? writer.written with
  | some text => text
  | none => cut writer.written 3
where
  /-- The longest prefix that is a text, at most `tries` bytes shorter. -/
  cut (bytes : ByteArray) : Nat → String
    | 0 => ""
    | tries + 1 =>
      let shorter := bytes.extract 0 (bytes.size - 1)
      match String.fromUTF8? shorter with
      | some text => text ++ "\ufffd"
      | none => cut shorter tries

end Writer

/-! ## Sinks -/

inductive Sink
  | memory (events : List Event)
  | jsonLines (writer : Writer)
  | log
  deriving Inhabited

namespace Sink

/-- Hands an event to a sink. Besides the sink's answer, gives what it adds to
the program's log. -/
def record (sink : Sink) (event : Event) : Except String Unit × Sink × String :=
  match sink with
  | memory events => (.ok (), memory (events ++ [event]), "")
  | jsonLines writer =>
    let (answer, writer) := writer.writeEvent event
    (answer, jsonLines writer, "")
  | log => (.ok (), log, event.logRecord)

/-- Hands an event to every sink of a group. -/
def recordAll (sinks : List Sink) (event : Event) : Except String Unit × List Sink × String :=
  match sinks with
  | [] => (.ok (), [], "")
  | sink :: rest =>
    let (answer, sink, logged) := sink.record event
    let (answers, rest, more) := recordAll rest event
    (match answer with
      | .error message => .error message
      | .ok () => answers,
    sink :: rest, logged ++ more)

end Sink

end Overseer
