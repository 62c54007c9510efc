import Overseer.Files.Basic
import Overseer.Machine.Signal

/-!
# Courses

The `Course` of a process is what it is going to do: it ends, or it asks the machine
for something and goes on with the answer. What a process computes between two
requests is in the functions that take the answers. A course that never ends is cut
into pauses, so that only a finite part of it is looked at at a time.
-/

namespace Overseer

abbrev ProcessId := Nat

/-- How a process ended. -/
inductive Departure
  | exited (status : Nat)
  | ended (signal : Signal)
  deriving DecidableEq

/-- What waiting for a child came to. -/
inductive Awaited
  | child (id : ProcessId) (departure : Departure)
  | noChild
  /-- A signal that is caught has come. -/
  | interrupted

/-- What is open under a number. -/
inductive Stream
  | file (node : Nat) (offset : Nat) (reads writes appends : Bool)
  /-- A text that is there to be read. -/
  | text (rest : Octets)
  | pipe (pipe : Nat) (writes : Bool)
  /-- Leads out of the machine, to a reader of lines. -/
  | outlet (outlet : Nat)
  deriving Inhabited

/-- The numbers under which a process has streams open. -/
abbrev Descriptors := List (Nat × Nat)

/-- What a process sees. -/
structure View where
  tree : FileTree
  descriptors : Descriptors
  /-- The nodes of the files that are open, with the numbers that they are open under. -/
  files : List (Nat × Nat)
  self : ProcessId
  parent : ProcessId
  uptime : Span
  /-- The signals that the process ignores. -/
  ignored : List Signal

inductive Course
  | exit (status : Nat)
  /-- Lets others go on. -/
  | pause (next : Unit → Course)
  | sleep (span : Span) (next : Unit → Course)
  | look (next : View → Course)
  /-- Puts a changed tree in the place of the one seen last. -/
  | store (tree : FileTree) (next : Unit → Course)
  /-- Makes a stream, and gives its number. -/
  | provide (stream : Stream) (next : Nat → Course)
  /-- Makes a pipe, and gives the numbers of the streams that read and write it. -/
  | pipe (next : Nat → Nat → Course)
  /-- Says anew which streams are open. -/
  | arrange (descriptors : Descriptors) (next : Unit → Course)
  /-- Reads at most so many bytes; none are given at the end of a stream. -/
  | read (descriptor most : Nat) (next : Except FileFault Octets → Course)
  | write (descriptor : Nat) (octets : Octets) (next : Option FileFault → Course)
  /-- Gives bytes back that were read from a file. -/
  | unread (descriptor count : Nat) (next : Unit → Course)
  /-- Starts a child with the same streams. -/
  | fork (child : Unit → Course) (next : ProcessId → Course)
  /-- Waits for a child, or for any; a signal ends the wait if asked for. -/
  | await (child : Option ProcessId) (interruptible : Bool) (next : Awaited → Course)
  /-- Makes the process and its later children a group of their own. -/
  | lead (next : Unit → Course)
  /-- Sends a signal to a process, to the own group for zero, to all for minus one, or to the
  group with the number after another minus sign. -/
  | send (target : Int) (signal : Signal) (next : Bool → Course)
  | dispose (signal : Signal) (disposition : Disposition) (next : Unit → Course)
  /-- Takes the signals that were caught. -/
  | takeSignals (next : List Signal → Course)

instance : Inhabited Course := ⟨.exit 0⟩

end Overseer
