import Overseer.Files.Change
import Overseer.Machine.Course

/-!
# Machines

A `Machine` carries processes out, one turn of one process after another, over a
common file tree. Its uptime stands still while a process computes, and goes on to
the next wake-up when no process can go on.
-/

namespace Overseer

structure Process where
  id : ProcessId
  parent : ProcessId
  /-- The number of the group that the process belongs to. -/
  group : ProcessId := 1
  course : Course
  descriptors : Descriptors
  dispositions : List (Signal × Disposition) := []
  caught : List Signal := []
  /-- When the sleep of the process is over. -/
  wakesAt : Option Span := none
  stopped : Bool := false

/-- A way out of the machine, with a reader that goes away after a line that is no
text. -/
structure Outlet where
  /-- The part of a line that has come out so far. -/
  held : Octets := ""
  isOpen : Bool := true
  /-- Whether the reader is about to go away. -/
  closes : Bool := false
  deriving Inhabited

/-- What a process comes to when a signal reaches it; none if that ends it. -/
def Process.receive? (process : Process) (signal : Signal) : Option Process :=
  let disposition := (process.dispositions.lookup signal).getD .standard
  if signal = Signal.kill then none
  else
    let resumed := if signal = Signal.resume then { process with stopped := false } else process
    if signal = Signal.stop then some { process with stopped := true }
    else
      match disposition with
      | .ignored => some resumed
      | .caught =>
        some (if resumed.caught.contains signal then resumed
          else { resumed with caught := resumed.caught ++ [signal] })
      | .standard =>
        match signal.effect with
        | .ends => none
        | .ignored | .resumes => some resumed
        | .stops => some { resumed with stopped := true }

/-- Takes what comes out of the machine, line by line. -/
def Outlet.take (outlet : Outlet) (octets : Octets) : Outlet :=
  match ((outlet.held ++ octets).splitOn "\n").reverse with
  | [] => outlet
  | held :: lines =>
    { outlet with
      held
      closes := outlet.closes || lines.any fun line => (Octets.toText? line).isNone }

structure Machine where
  tree : FileTree
  uptime : Span := .zero
  processes : List Process := []
  /-- The children that have ended and were not waited for, with their parents. -/
  departed : List (ProcessId × ProcessId × Departure) := []
  streams : Array Stream := #[]
  /-- What was written to each pipe and not read yet. -/
  pipes : Array Octets := #[]
  outlets : Array Outlet := #[]
  nextId : ProcessId := 4242

namespace Machine

/-- The parent of the processes that come from outside of the machine. -/
def outside : ProcessId := 1

def stream (machine : Machine) (id : Nat) : Stream := machine.streams.getD id default

def setStream (machine : Machine) (id : Nat) (stream : Stream) : Machine :=
  { machine with streams := machine.streams.setIfInBounds id stream }

def provide (machine : Machine) (stream : Stream) : Machine × Nat :=
  ({ machine with streams := machine.streams.push stream }, machine.streams.size)

/-! ## Ends and signals -/

/-- Takes a process that has ended out of the machine. Its children get another
parent. -/
def depart (machine : Machine) (process : Process) (departure : Departure) : Machine :=
  let orphaned (child : Process) : Process :=
    if child.parent = process.id then { child with parent := 0 } else child
  let others := machine.departed.filter fun entry => entry.2.1 ≠ process.id
  let isKnown := process.parent = outside || machine.processes.any (·.id = process.parent)
  { machine with
    processes := (machine.processes.filter (·.id ≠ process.id)).map orphaned
    departed := if isKnown then others ++ [(process.id, process.parent, departure)] else others }

/-- Sends a signal to the processes with the given numbers. -/
def signal (machine : Machine) (targets : List ProcessId) (signal : Signal) : Machine :=
  targets.foldl (fun machine target =>
    match machine.processes.find? (·.id = target) with
    | none => machine
    | some process =>
      match process.receive? signal with
      | none => machine.depart process (.ended signal)
      | some process =>
        { machine with
          processes := machine.processes.map fun other =>
            if other.id = target then process else other }) machine

/-! ## Streams -/

/-- The number of bytes that a pipe holds. -/
def pipeRoom : Nat := 65536

/-- Whether some process has an end of a pipe open; `process` is in the midst of its
turn. -/
def hasEnd (machine : Machine) (pipe : Nat) (writes : Bool) (process : Process) : Bool :=
  let others := machine.processes.filter (·.id ≠ process.id)
  (process :: others).any fun process =>
    process.descriptors.any fun (_, id) =>
      match machine.stream id with
      | .pipe other otherWrites => other = pipe && otherWrites = writes
      | _ => false

/-- What reading or writing comes to: an answer, or a wait. -/
inductive Transfer (α : Type)
  | done (machine : Machine) (answer : α)
  | waits

/-- Reads from a stream. -/
def read (machine : Machine) (process : Process) (descriptor most : Nat) :
    Transfer (Except FileFault Octets) :=
  match process.descriptors.lookup descriptor with
  | none => .done machine (.error .badDescriptor)
  | some id =>
    match machine.stream id with
    | .file node offset reads writes appends =>
      if !reads then .done machine (.error .badDescriptor)
      else
        match machine.tree.kind node with
        | .file bytes =>
          let piece := bytes.extract offset (offset + most)
          .done (machine.setStream id (.file node (offset + piece.size) reads writes appends))
            (.ok (Octets.ofBytes piece))
        | .folder .. => .done machine (.error .isFolder)
        | .device .zeros | .device .full | .device .noise =>
          .done machine (.ok (String.ofList (List.replicate most '\x00')))
        | _ => .done machine (.ok "")
    | .text rest =>
      .done (machine.setStream id (.text (rest.drop most).toString))
        (.ok (rest.take most).toString)
    | .pipe pipe false =>
      let held := machine.pipes.getD pipe ""
      if held.isEmpty then
        if machine.hasEnd pipe true process then .waits else .done machine (.ok "")
      else
        .done { machine with pipes := machine.pipes.setIfInBounds pipe (held.drop most).toString }
          (.ok (held.take most).toString)
    | .pipe _ true | .outlet _ => .done machine (.error .badDescriptor)

/-- Writes to a stream. -/
def write (machine : Machine) (process : Process) (descriptor : Nat) (octets : Octets) :
    Transfer (Option FileFault) :=
  match process.descriptors.lookup descriptor with
  | none => .done machine (some .badDescriptor)
  | some id =>
    match machine.stream id with
    | .file node offset reads writes appends =>
      if !writes then .done machine (some .badDescriptor)
      else
        match machine.tree.kind node with
        | .file bytes =>
          let start := if appends then bytes.size else offset
          let piece := octets.toBytes
          let content := FileTree.overwritten bytes start piece
          let machine :=
            machine.setStream id (.file node (start + piece.size) reads writes appends)
          .done { machine with tree := machine.tree.setKind node (.file content) } none
        | .device .full => .done machine (if octets.isEmpty then none else some .noSpace)
        | _ => .done machine none
    | .text _ | .pipe _ false => .done machine (some .badDescriptor)
    | .pipe pipe true =>
      let held := machine.pipes.getD pipe ""
      if !machine.hasEnd pipe false process then .done machine (some .brokenPipe)
      else if pipeRoom ≤ held.utf8ByteSize then .waits
      else .done { machine with pipes := machine.pipes.setIfInBounds pipe (held ++ octets) } none
    | .outlet outlet =>
      if (machine.outlets.getD outlet default).isOpen then
        .done { machine with outlets := machine.outlets.modify outlet (·.take octets) } none
      else .done machine (some .brokenPipe)

/-- Gives bytes back to the file that they were read from. -/
def unread (machine : Machine) (process : Process) (descriptor count : Nat) : Machine :=
  match process.descriptors.lookup descriptor with
  | none => machine
  | some id =>
    match machine.stream id with
    | .file node offset reads writes appends =>
      machine.setStream id (.file node (offset - count) reads writes appends)
    | _ => machine

end Machine

end Overseer
