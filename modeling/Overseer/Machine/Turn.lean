import Overseer.Machine.Basic

/-!
# Turns

In its turn a process goes on until it has to wait, has ended, or has made so many
requests that others get theirs. A pass gives each process a turn.
-/

namespace Overseer.Machine

/-- What the turn of a process came to. -/
structure Turn where
  machine : Machine
  /-- The process as it is now; none if it has ended. -/
  process : Option Process
  /-- Whether the process did anything. -/
  moved : Bool
  /-- Whether the process could have gone on, or has filled a pipe. -/
  busy : Bool := false

/-- The child that a wait is for, if it has ended, and whether there is one to wait
for. -/
def findChild (machine : Machine) (parent : ProcessId) (child : Option ProcessId) :
    Option (ProcessId × Departure) × Bool :=
  let isMeant (id : ProcessId) : Bool := child.all (· = id)
  let ended := machine.departed.find? fun entry => entry.2.1 = parent && isMeant entry.1
  (ended.map fun entry => (entry.1, entry.2.2),
    machine.processes.any fun process => process.parent = parent && isMeant process.id)

def viewOf (machine : Machine) (process : Process) : View where
  tree := machine.tree
  descriptors := process.descriptors
  files := process.descriptors.filterMap fun (number, id) =>
    match machine.stream id with
    | .file node .. => some (number, node)
    | _ => none
  self := process.id
  parent := process.parent
  uptime := machine.uptime
  ignored := process.dispositions.filterMap fun (signal, disposition) =>
    if disposition = .ignored then some signal else none

/-- Sends a signal for a process in its turn. Gives whether there was a receiver. -/
def sendFrom (machine : Machine) (process : Process) (target : Int) (signal : Signal) :
    Machine × Option Process × Bool :=
  let isMeant (other : Process) : Bool :=
    if 0 < target then (other.id : Int) = target
    else if target = 0 then other.group = process.group
    else if target = -1 then other.id ≠ process.id
    else -(other.group : Int) = target
  let others := machine.processes.filter fun other => other.id ≠ process.id
  let targets := ((process :: others).filter isMeant).map (·.id)
  if signal = 0 then (machine, some process, !targets.isEmpty)
  else
    let machine := machine.signal (targets.filter (· ≠ process.id)) signal
    let self := if targets.contains process.id then process.receive? signal else some process
    (machine, self, !targets.isEmpty)

/-- The number of requests after which the next pause ends a turn. -/
def turnLength : Nat := 2000

/-- The turn of a process. It ends for good when the `fuel` is used up, and at a
pause when no more than `spare` of it is left. -/
def turn (spare : Nat) : (fuel : Nat) → (moved : Bool) → Machine → Process → Turn
  | 0, moved, machine, process => { machine, process := some process, moved, busy := true }
  | fuel + 1, moved, machine, process =>
    let go (machine : Machine) (process : Process) (course : Course) : Turn :=
      turn spare fuel true machine { process with course }
    let waits : Turn := { machine, process := some process, moved }
    let ends (machine : Machine) (departure : Departure) : Turn :=
      { machine := machine.depart process departure, process := none, moved := true }
    if process.stopped then waits
    else
      match process.course with
      | .exit status => ends machine (.exited (status % 256))
      | .pause next =>
        if fuel ≤ spare then
          { machine, process := some { process with course := next () }, moved := true
            busy := true }
        else go machine process (next ())
      | .sleep span next =>
        match process.wakesAt with
        | some time =>
          if time.nanos ≤ machine.uptime.nanos then
            go machine { process with wakesAt := none } (next ())
          else waits
        | none =>
          if span = .zero then go machine process (next ())
          else
            let time : Span := ⟨machine.uptime.nanos + span.nanos⟩
            { machine, process := some { process with wakesAt := some time }, moved := true }
      | .look next => go machine process (next (machine.viewOf process))
      | .store tree next => go { machine with tree } process (next ())
      | .provide stream next =>
        let (machine, id) := machine.provide stream
        go machine process (next id)
      | .pipe next =>
        let pipe := machine.pipes.size
        let (machine, output) :=
          { machine with pipes := machine.pipes.push "" }.provide (.pipe pipe false)
        let (machine, input) := machine.provide (.pipe pipe true)
        go machine process (next output input)
      | .arrange descriptors next => go machine { process with descriptors } (next ())
      | .read descriptor most next =>
        match machine.read process descriptor most with
        | .done machine answer => go machine process (next answer)
        | .waits => waits
      | .write descriptor octets next =>
        match machine.write process descriptor octets with
        | .done machine (some .brokenPipe) =>
          match process.receive? Signal.brokenPipe with
          | none => ends machine (.ended Signal.brokenPipe)
          | some process => go machine process (next (some .brokenPipe))
        | .done machine answer => go machine process (next answer)
        | .waits => { waits with busy := moved }
      | .unread descriptor count next =>
        go (machine.unread process descriptor count) process (next ())
      | .fork child next =>
        let id := machine.nextId
        let started : Process :=
          { process with id, parent := process.id, course := .pause child, caught := [] }
        go { machine with processes := machine.processes ++ [started], nextId := id + 1 } process
          (next id)
      | .await child interruptible next =>
        match machine.findChild process.id child with
        | (some (id, departure), _) =>
          let departed := machine.departed.filter (·.1 ≠ id)
          go { machine with departed } process (next (.child id departure))
        | (none, isThere) =>
          if interruptible && !process.caught.isEmpty then
            go machine process (next .interrupted)
          else if isThere then waits
          else go machine process (next .noChild)
      | .lead next => go machine { process with group := process.id } (next ())
      | .send target signal next =>
        match machine.sendFrom process target signal with
        | (machine, none, _) => ends machine (.ended signal)
        | (machine, some process, known) => go machine process (next known)
      | .dispose signal disposition next =>
        let others := process.dispositions.filter (·.1 ≠ signal)
        go machine { process with dispositions := (signal, disposition) :: others } (next ())
      | .takeSignals next => go machine { process with caught := [] } (next process.caught)

/-- The requests of a turn that never pauses. -/
def turnFuel : Nat := 100000

/-- Gives each process a turn. Also gives whether one of them did anything, and
whether one of them could have gone on. -/
def passOver : List ProcessId → Machine → Machine × Bool × Bool
  | [], machine => (machine, false, false)
  | id :: rest, machine =>
    match machine.processes.find? (·.id = id) with
    | none => passOver rest machine
    | some process =>
      let turn := turn (turnFuel - turnLength) turnFuel false machine process
      let processes := turn.machine.processes.map fun other =>
        match turn.process with
        | some process => if other.id = id then process else other
        | none => other
      let (machine, moved, busy) := passOver rest { turn.machine with processes }
      (machine, turn.moved || moved, turn.busy || busy)

/-! ## Time -/

/-- Lets the uptime go on to a time that has not passed yet. -/
def waitUntil (machine : Machine) (time : Span) : Machine :=
  let uptime : Span := ⟨max time.nanos machine.uptime.nanos⟩
  { machine with uptime, tree := { machine.tree with now := uptime } }

/-- The time that a turn takes which ends although the process could go on. -/
def turnTime : Span := .ofMillis 5

/-- Gives each process a turn, and lets readers go away. Gives whether anything was
done; computing takes time only for a process that uses its turn up. -/
def pass (machine : Machine) : Machine × Bool :=
  let (machine, moved, busy) := passOver (machine.processes.map (·.id)) machine
  let outlets := machine.outlets.map fun outlet =>
    { outlet with isOpen := outlet.isOpen && !outlet.closes }
  let machine := { machine with outlets }
  (if busy then machine.waitUntil ⟨machine.uptime.nanos + turnTime.nanos⟩ else machine, moved)

/-- The earliest time at which a process wakes up. -/
def nextWake? (machine : Machine) : Option Span :=
  ((machine.processes.filterMap fun process =>
    if process.stopped then none else process.wakesAt.map (·.nanos)).min?).map Span.mk

end Overseer.Machine
