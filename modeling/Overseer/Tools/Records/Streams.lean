import Overseer.Tools.Records.State

/-!
# Streams of record programs

Files and commands are opened when they are first written to or read from, and stay open
until they are closed. What is written is held back, at the latest until a command is run or
the program ends.
-/

namespace Overseer.Records

/-- What the parts of a record program are given: how they were called, and how programs are
carried out. -/
structure Setting where
  invocation : Invocation
  launch : Launch

/-- The names of the streams that are open from the beginning. -/
def standardOutput : Octets := "/dev/stdout"
def standardError : Octets := "/dev/stderr"

def standardOutputs : List OutputStream :=
  [{ name := standardOutput, isCommand := false, number := 1 },
   { name := standardError, isCommand := false, number := 2 }]

namespace Run

/-! ## Writing -/

/-- The size of what is held back for a stream at most. -/
def heldSize : Nat := 4096

/-- Writes what is held back for a stream. -/
def flushStream (setting : Setting) (stream : OutputStream) : Run Unit := do
  modify fun state =>
    { state with
      outputs := state.outputs.map fun other =>
        if other.number = stream.number then { other with held := "" } else other }
  match ← Work.write stream.number stream.held with
  | none => return
  | some fault =>
    fail setting.invocation ("write failure (" ++ fault.text ++ ")")

/-- Writes all that is held back. -/
def flushAll (setting : Setting) : Run Unit := do
  for stream in (← get).outputs do
    if !stream.held.isEmpty then flushStream setting stream

/-- Becomes the shell that carries out a command line, with the standard streams alone; some
of them may be others than before. -/
def becomeShell (setting : Setting) (line : Octets) (streams : Descriptors) : Work Nat := do
  let kept := (← Work.look).descriptors.filter fun entry =>
    entry.1 < 3 && (streams.lookup entry.1).isNone
  Work.arrange (streams ++ kept)
  Work.become setting.launch "sh"
    { setting.invocation with name := "sh", arguments := ["-c", line] }

/-- Adds a stream, and gives its number. -/
def addStream (stream : Nat) : Work Nat := do
  let number := Work.freeNumber (← Work.look).descriptors Tool.fileNumber
  Work.place number stream
  return number

/-- Carries out a command line at the other end of a pipe, from which it reads or to which it
writes. Gives the process and the number of this end. -/
def startCommand (setting : Setting) (reads : Bool) (line : Octets) : Work (ProcessId × Nat) := do
  let (output, input) ← Work.pipe
  let (ours, theirs) := if reads then (input, output) else (output, input)
  let number ← addStream ours
  let other ← addStream theirs
  let child ← Work.fork fun _ =>
    Work.toCourse (becomeShell setting line [(if reads then 0 else 1, theirs)])
  Work.close other
  return (child, number)

/-- Opens a file or a command to write to. -/
def openOutput (setting : Setting) (outlet : Outlet) (name : Octets) : Run OutputStream := do
  match outlet with
  | .command => do
    flushAll setting
    let (child, number) ← startCommand setting true name
    return { name, isCommand := true, number, child := some child }
  | _ => do
    let opening : Work.Opening := if outlet = .file then .forWriting else .forAppending
    let invocation := setting.invocation
    match ← Work.openFile invocation.folder name opening
        (0o666 &&& (0o777 ^^^ invocation.mask)) with
    | .ok stream => do
      let number ← addStream stream
      return { name, isCommand := false, number }
    | .error fault =>
      fail invocation ("cannot open \"" ++ name ++ "\" for output (" ++ fault.text ++ ")")

/-- Writes to a stream. -/
def writeTo (setting : Setting) (outlet : Outlet) (name octets : Octets) : Run Unit := do
  let isCommand := outlet = .command
  let name := if name = "-" && !isCommand then standardOutput else name
  let known := (← get).outputs.find? fun other => other.name = name && other.isCommand = isCommand
  let stream ←
    match known with
    | some stream => pure stream
    | none => do
      let stream ← openOutput setting outlet name
      modify fun state => { state with outputs := state.outputs ++ [stream] }
      pure stream
  let stream := { stream with held := stream.held ++ octets }
  if stream.number = 2 || heldSize < stream.held.length then flushStream setting stream
  else
    modify fun state =>
      { state with
        outputs := state.outputs.map fun other =>
          if other.number = stream.number then stream else other }

/-- Writes to the standard output. -/
def put (setting : Setting) (octets : Octets) : Run Unit :=
  writeTo setting .file standardOutput octets

/-! ## Commands -/

/-- The number that the end of a command gives. -/
def endNumber : Awaited → Nat
  | .child _ (.exited status) => status
  | .child _ (.ended signal) => 256 + signal
  | _ => 0

/-- Carries out a command line, and gives its status. -/
def runCommand (setting : Setting) (line : Octets) : Run Nat := do
  flushAll setting
  let child ← Work.fork fun _ => Work.toCourse (becomeShell setting line [])
  return endNumber (← Work.await (some child) false)

/-! ## Reading -/

/-- Takes the next record from a stream, none at its end. -/
def takeRecord (setting : Setting) (reader : RecordReader) :
    Run (Option Octets × RecordReader) := do
  let separator ← recordSeparator setting.invocation (← globalText "RS")
  iterate (fun (reader : RecordReader) => do
    match reader.take separator with
    | .record text reader => return .inr (some text, reader)
    | .finished => return .inr (none, reader)
    | .tooShort => do
      match ← Work.read reader.number 65536 with
      | .error fault => fail setting.invocation ("read error (" ++ fault.text ++ ")")
      | .ok "" => return .inl { reader with isAtEnd := true }
      | .ok piece => return .inl { reader with text := reader.text ++ piece.toList }) reader

/-- Sets a variable as a command line says. -/
def setFromArgument (setting : Setting) (name text : Octets) : Run Unit :=
  setVariable setting.invocation name (.read (Lexeme.escapes.unescape text).1)

/-- The assignment that an argument is, if it is one. -/
def assignment? (argument : Octets) : Option (Octets × Octets) :=
  match argument.toList.span (· ≠ '=') with
  | (c :: name, _ :: text) =>
    if Lexeme.isNameStart c && name.all Lexeme.isNamePart then
      some (String.ofList (c :: name), String.ofList text)
    else none
  | _ => none

/-- Begins with a file of the program's own records. -/
def beginFile (setting : Setting) (path : Octets) : Run RecordReader := do
  match ← Tool.openInput setting.invocation path with
  | .ok number => do
    setGlobal "FILENAME" (.read path)
    setCount "FNR" 0
    return { number }
  | .error fault =>
    fail setting.invocation ("cannot open \"" ++ path ++ "\" (" ++ fault.text ++ ")")

/-- Begins with the next file that an argument names, or else with what comes in; none if
there is no other. -/
def nextFile (setting : Setting) : Run (Option RecordReader) := do
  let arguments ← tableNumber "ARGV"
  iterate (fun () => do
    let state ← get
    let count := wholePart (← globalValue "ARGC").toNumber
    if (state.nextArgument : Int) < count then do
      set { state with nextArgument := state.nextArgument + 1 }
      let argument ← textOf (((← table arguments).get? (Nat.repr state.nextArgument)).getD .unset)
      if argument.isEmpty then return .inl ()
      else
        match assignment? argument with
        | some (name, text) => do
          setFromArgument setting name text
          return .inl ()
        | none => do
          modify fun state => { state with hadFile := true }
          return .inr (some (← beginFile setting argument))
    else if state.hadFile then return .inr none
    else do
      modify fun state => { state with hadFile := true }
      return .inr (some (← beginFile setting "-"))) ()

/-- Leaves the file that the records come from. -/
def leaveFile : Run Unit := do
  match (← get).reader with
  | none => return
  | some reader => do
    Tool.closeInput reader.number
    modify fun state => { state with reader := none }

/-- Takes the next record of the program's own files, none after the last. -/
def nextRecord (setting : Setting) : Run (Option Octets) :=
  iterate (fun () => do
    match (← get).reader with
    | none => do
      match ← nextFile setting with
      | none => return .inr none
      | some reader => do
        modify fun state => { state with reader := some reader }
        return .inl ()
    | some reader => do
      let (text, reader) ← takeRecord setting reader
      modify fun state => { state with reader := some reader }
      match text with
      | some text => return .inr (some text)
      | none => do
        leaveFile
        return .inl ()) ()

/-- Adds one to a count. -/
def countUp (name : Octets) : Run Unit := do
  setGlobal name (.number ((← globalValue name).toNumber + 1))

/-- Opens a file or a command to read from; none if the file cannot be read. -/
def openReading (setting : Setting) (isCommand : Bool) (name : Octets) :
    Run (Option InputStream) := do
  if isCommand then do
    flushAll setting
    let (child, number) ← startCommand setting false name
    return some { name, isCommand, reader := { number }, child := some child }
  else
    let path := if name = "/dev/stdin" then "-" else name
    match ← Tool.openInput setting.invocation path with
    | .ok number => return some { name, isCommand, reader := { number } }
    | .error _ => return none

/-- Takes the next record of another file or of a command; none at its end. The outer part is
none if the file cannot be read. -/
def readFrom (setting : Setting) (isCommand : Bool) (name : Octets) :
    Run (Option (Option Octets)) := do
  let known := (← get).inputs.find? fun other => other.name = name && other.isCommand = isCommand
  let stream ←
    match known with
    | some stream => pure (some stream)
    | none => openReading setting isCommand name
  match stream with
  | none => return none
  | some stream => do
    let (text, reader) ← takeRecord setting stream.reader
    modify fun state =>
      { state with
        inputs := { stream with reader } ::
          state.inputs.filter fun other => other.name ≠ name || other.isCommand ≠ isCommand }
    return some text

/-! ## Closing -/

/-- Closes a stream that is written to, and gives what the command ended with. -/
def closeOutput (setting : Setting) (stream : OutputStream) : Run Int := do
  if !stream.held.isEmpty then flushStream setting stream
  if 2 < stream.number then do
    modify fun state =>
      { state with outputs := state.outputs.filter fun other => other.number ≠ stream.number }
    Work.close stream.number
  match stream.child with
  | none => return 0
  | some child => return endNumber (← Work.await (some child) false)

def closeReading (stream : InputStream) : Run Int := do
  modify fun state =>
    { state with
      inputs := state.inputs.filter fun other => other.reader.number ≠ stream.reader.number }
  Tool.closeInput stream.reader.number
  match stream.child with
  | none => return 0
  | some child => return endNumber (← Work.await (some child) false)

/-- Closes what goes by a name, and gives a number that says how that went. -/
def closeNamed (setting : Setting) (name : Octets) : Run Int := do
  let state ← get
  let mut outcome : Int := -1
  for stream in state.outputs.filter (·.name = name) do outcome ← closeOutput setting stream
  for stream in state.inputs.filter (·.name = name) do outcome ← closeReading stream
  return outcome

/-- Ends all output: first the commands that are written to, then the rest. -/
def closeAll (setting : Setting) : Run Unit := do
  for stream in (← get).outputs.filter (·.isCommand) do
    let _ ← closeOutput setting stream
  flushAll setting

end Run

end Overseer.Records
