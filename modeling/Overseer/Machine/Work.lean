import Overseer.Files.Change
import Overseer.Machine.Course

/-!
# Work

`Work α` is a part of a course that comes to a value: it says what the process does
up to there, given what it does after. The requests of a course become operations
that can be put together.
-/

namespace Overseer

def Work (α : Type) : Type := (α → Course) → Course

instance : Monad Work where
  pure value := fun next => next value
  bind work rest := fun next => work fun value => rest value next

instance : Inhabited (Work α) := ⟨fun _ => default⟩

namespace Work

/-- The course of a process that does its work and ends with the status that the work
comes to. -/
def toCourse (work : Work Nat) : Course := work .exit

/-! ## Requests -/

/-- Ends the process. -/
def exit (status : Nat) : Work α := fun _ => .exit status

def pause : Work Unit := fun next => .pause next
def sleep (span : Span) : Work Unit := fun next => .sleep span next
def look : Work View := fun next => .look next
def store (tree : FileTree) : Work Unit := fun next => .store tree next
def provide (stream : Stream) : Work Nat := fun next => .provide stream next
def pipe : Work (Nat × Nat) := fun next => .pipe fun output input => next (output, input)
def arrange (descriptors : Descriptors) : Work Unit := fun next => .arrange descriptors next

def read (descriptor most : Nat) : Work (Except FileFault Octets) :=
  fun next => .read descriptor most next

/-- Writes bytes; gives the fault if that fails. -/
def write (descriptor : Nat) (octets : Octets) : Work (Option FileFault) :=
  fun next => if octets.isEmpty then next none else .write descriptor octets next

def unread (descriptor count : Nat) : Work Unit :=
  fun next => if count = 0 then next () else .unread descriptor count next

def fork (child : Unit → Course) : Work ProcessId := fun next => .fork child next

def await (child : Option ProcessId) (interruptible : Bool) : Work Awaited :=
  fun next => .await child interruptible next

def lead : Work Unit := fun next => .lead next

def send (target : Int) (signal : Signal) : Work Bool := fun next => .send target signal next

def dispose (signal : Signal) (disposition : Disposition) : Work Unit :=
  fun next => .dispose signal disposition next

def takeSignals : Work (List Signal) := fun next => .takeSignals next

def tree : Work FileTree := do return (← look).tree

/-- When everything began, as clocks show it. -/
def beginning : Instant := .ofSeconds 1704067200

/-- The time that clocks show. -/
def now : Work Instant := do return beginning.later (← look).uptime

/-! ## Repetition -/

/-- The number of rounds after which a repetition is given up; no machine goes on for
so long. -/
def endurance : Nat := 1000000000000

/-- Does one round after another, until one comes to a result. -/
def iterate (round : σ → Work (σ ⊕ α)) (state : σ) : Work α :=
  go endurance state
where
  go : (rounds : Nat) → σ → Work α
    | 0, _ => exit 255
    | rounds + 1, state => do
      match ← round state with
      | .inl state => go rounds state
      | .inr result => return result

/-! ## Streams -/

/-- The number of bytes that are read at a time. -/
def pieceSize : Nat := 4096

/-- The rest of a stream. -/
def readAll (descriptor : Nat) : Work (Except FileFault Octets) :=
  iterate (σ := List Octets) (fun pieces => do
    match ← read descriptor 65536 with
    | .error fault => return .inr (.error fault)
    | .ok piece =>
      if piece.isEmpty then return .inr (.ok (String.join pieces.reverse))
      else return .inl (piece :: pieces)) []

/-- Closes a stream. -/
def close (descriptor : Nat) : Work Unit := do
  arrange ((← look).descriptors.filter (·.1 ≠ descriptor))

/-- Puts a stream under a number, in the place of what was there. -/
def place (descriptor stream : Nat) : Work Unit := do
  arrange ((descriptor, stream) :: (← look).descriptors.filter (·.1 ≠ descriptor))

/-- The lowest number from `least` on under which nothing is open. -/
def freeNumber (descriptors : Descriptors) (least : Nat) : Nat :=
  ((List.range (descriptors.length + 1)).map (· + least)).find?
    (fun number => (descriptors.lookup number).isNone) |>.getD least

/-- Changes the file tree, unless the change is refused. -/
def change (change : FileTree → Except FileFault FileTree) : Work (Option FileFault) := do
  match change (← tree) with
  | .error fault => return some fault
  | .ok tree => do
    store tree
    return none

/-- What opening a file is for. -/
structure Opening where
  reads : Bool := false
  writes : Bool := false
  appends : Bool := false
  /-- Whether a missing file is made. -/
  makes : Bool := false
  /-- Whether the content is dropped. -/
  empties : Bool := false
  /-- Whether a file that is there is refused. -/
  keeps : Bool := false

def Opening.forReading : Opening := { reads := true }
def Opening.forWriting : Opening := { writes := true, makes := true, empties := true }
def Opening.forAppending : Opening := { writes := true, makes := true, appends := true }

/-- Opens a file, and gives the number of the stream. -/
def openFile (folder : Nat) (path : Octets) (opening : Opening) (mode : Nat) :
    Work (Except FileFault Nat) := do
  let view ← look
  let found :=
    if opening.makes then view.tree.ensureFile folder path mode
    else (view.tree.find folder path true).map fun id => (view.tree, id)
  match found with
  | .error fault => return .error fault
  | .ok (tree, id) =>
    match tree.kind id with
    | .folder .. => if opening.writes then return .error .isFolder
    | .device .terminal => return .error .noDevice
    | .device (.descriptor number) =>
      match view.descriptors.lookup number with
      | some stream => return .ok stream
      | none => return .error .missing
    | _ => pure ()
    let isFile := (tree.content id).isOk && tree.kind id matches .file _
    if opening.keeps && isFile && (view.tree.find folder path true).isOk then
      return .error .alreadyThere
    store (if opening.empties then tree.setContent id .empty else tree)
    let stream ← provide (.file id 0 opening.reads opening.writes opening.appends)
    return .ok stream

end Work

end Overseer
