import Overseer.Tools.Basic

/-!
# What tools read

Tools read the files that they are given one after another, or else what comes in. A tool
that needs only the beginning does not wait for the rest.
-/

namespace Overseer.Tool

/-- The least number that a tool opens files under. -/
def fileNumber : Nat := 3

/-- Opens a file to read it, and gives the number; a dash stands for what comes in. -/
def openInput (invocation : Invocation) (path : Octets) : Work (Except FileFault Nat) := do
  if path = "-" then return .ok 0
  else
    match ← Work.openFile invocation.folder path .forReading 0 with
    | .error fault => return .error fault
    | .ok stream => do
      let number := Work.freeNumber (← Work.look).descriptors fileNumber
      Work.place number stream
      return .ok number

def closeInput (number : Nat) : Work Unit := do
  if number = 0 then return else Work.close number

/-- The content of a file. -/
def readFile (invocation : Invocation) (path : Octets) : Work (Except FileFault Octets) := do
  match ← openInput invocation path with
  | .error fault => return .error fault
  | .ok number => do
    let content ← Work.readAll number
    closeInput number
    return content

/-- How most tools word that a file cannot be read. -/
def unreadable (path : Octets) (fault : FileFault) : Octets := shown path ++ ": " ++ fault.text

/-- The contents of files. One that cannot be read is passed over with a message; also gives
whether there was none such. -/
def readFiles (invocation : Invocation) : List Octets → Work (List (Octets × Octets) × Bool)
  | [] => return ([], true)
  | path :: rest => do
    match ← readFile invocation path with
    | .error fault => do
      warn invocation (unreadable path fault)
      return ((← readFiles invocation rest).1, false)
    | .ok content => do
      let (others, isDone) ← readFiles invocation rest
      return ((path, content) :: others, isDone)

/-- The files that are read if none are named. -/
def orStandard (files : List Octets) : List Octets := if files.isEmpty then ["-"] else files

/-! ## Lines one after another -/

/-- A row of files that are being read line by line. -/
structure LineReader where
  files : List Octets
  /-- The number of the file that is being read. -/
  number : Option Nat := none
  /-- The name of that file. -/
  name : Octets := "-"
  /-- The lines that were read and are still to be taken. -/
  lines : List Octets := []
  /-- The beginning of a line whose end was not read yet. -/
  held : Octets := ""
  /-- How a file that cannot be read is reported, if it is. -/
  report : Octets → FileFault → Option Octets := fun path fault => some (unreadable path fault)
  /-- What ends a line. -/
  ending : Octets := "\n"
  /-- Whether there is a zero byte in what was read of the file. -/
  hasZero : Bool := false
  /-- What is wrong with the last file that could not be read. -/
  fault : Option FileFault := none

/-- A line without its end. -/
structure Line where
  text : Octets
  hasEnd : Bool
  /-- The name of the file that it comes from, and whether a zero byte was read in it. -/
  file : Octets
  hasZero : Bool := false

namespace LineReader

/-- Whether some file could not be read. -/
def failed (reader : LineReader) : Bool := reader.fault.isSome

/-- Reports a file that cannot be read. -/
def complain (invocation : Invocation) (reader : LineReader) (path : Octets) (fault : FileFault) :
    Work Unit :=
  match reader.report path fault with
  | some message => warn invocation message
  | none => pure ()

/-- Reads on until there is a line, or nothing left. -/
def fill (invocation : Invocation) (reader : LineReader) : Work LineReader :=
  Work.iterate (fun (reader : LineReader) => do
    if !reader.lines.isEmpty then return .inr reader
    else
      match reader.number, reader.files with
      | some number, _ => do
        match ← Work.read number 65536 with
        | .error fault => do
          reader.complain invocation reader.name fault
          closeInput number
          return .inl { reader with number := none, fault := some fault }
        | .ok "" => do
          if reader.held.isEmpty then do
            closeInput number
            return .inl { reader with number := none }
          else return .inr reader
        | .ok piece =>
          let hasZero := reader.hasZero || piece.contains '\x00'
          match ((reader.held ++ piece).splitOn reader.ending).reverse with
          | [] => return .inl reader
          | held :: lines => return .inl { reader with held, lines := lines.reverse, hasZero }
      | none, [] => return .inr reader
      | none, path :: files => do
        match ← openInput invocation path with
        | .ok number => return .inl { reader with number, name := path, files, hasZero := false }
        | .error fault => do
          reader.complain invocation path fault
          return .inl { reader with files, fault := some fault }) reader

/-- A line of the file that is being read. -/
def line (reader : LineReader) (text : Octets) (hasEnd : Bool) : Line :=
  ⟨text, hasEnd, reader.name, reader.hasZero⟩

/-- Takes the next line. -/
def next (invocation : Invocation) (reader : LineReader) : Work (Option Line × LineReader) := do
  let reader ← if reader.lines.isEmpty then fill invocation reader else pure reader
  match reader.lines with
  | text :: lines => return (some (reader.line text true), { reader with lines })
  | [] =>
    match reader.number with
    | some number => do
      closeInput number
      let line := reader.line reader.held false
      return (some line, { reader with number := none, held := "" })
    | none => return (none, reader)

/-- Whether there is no further line. -/
def isAtEnd (invocation : Invocation) (reader : LineReader) : Work (Bool × LineReader) := do
  let reader ← if reader.lines.isEmpty then fill invocation reader else pure reader
  return (reader.lines.isEmpty && reader.number.isNone, reader)

/-- Gives back what was read and not taken, for those who read on. -/
def giveBack (reader : LineReader) : Work Unit := do
  let count := reader.lines.foldl (fun count line => count + line.length + 1) reader.held.length
  match reader.number with
  | some number => Work.unread number count
  | none => return

end LineReader

/-- Takes lines one after another while a step is not done. Gives what it puts out, and the
lines that are left. -/
def takeLines (step : σ → Line → σ × Octets) (isDone : σ → Bool) (reader : LineReader) :
    List Octets → σ → Octets → σ × Octets × List Octets
  | [], state, octets => (state, octets, [])
  | text :: lines, state, octets =>
    if isDone state then (state, octets, text :: lines)
    else
      let (state, more) := step state (reader.line text true)
      takeLines step isDone reader lines state (octets ++ more)

/-- Feeds the lines of a reader to a step one after another, and puts out what it says,
until it is done. Gives the last state, and the reader with what is left. -/
def overReader (invocation : Invocation) (reader : LineReader)
    (step : σ → Line → σ × Octets) (isDone : σ → Bool) (start : σ) : Work (σ × LineReader) :=
  Work.iterate (fun (state, reader) => do
    if isDone state then return .inr (state, reader)
    else
      let reader ← LineReader.fill invocation reader
      match reader.lines with
      | [] => do
        match ← reader.next invocation with
        | (some line, reader) => do
          let (state, octets) := step state line
          put invocation octets
          return .inl (state, reader)
        | (none, reader) => return .inr (state, reader)
      | lines => do
        let (state, octets, lines) := takeLines step isDone reader lines state ""
        put invocation octets
        return .inl (state, { reader with lines }))
    (start, reader)

/-- Feeds the lines of files to a step one after another, and puts out what it says, until it
is done. Gives the last state, and whether all files could be read. -/
def overLines (invocation : Invocation) (files : List Octets)
    (step : σ → Line → σ × Octets) (isDone : σ → Bool) (start : σ) : Work (σ × Bool) := do
  let (state, reader) ←
    overReader invocation { files := orStandard files } step isDone start
  return (state, !reader.failed)

/-- Puts out what becomes of each line on its own, and gives the status. -/
def mapLines (invocation : Invocation) (files : List Octets) (change : Line → Octets) :
    Work Nat := do
  let (_, isDone) ← overLines invocation files (fun state line => (state, change line))
    (fun _ => false) ()
  return if isDone then 0 else 1

end Overseer.Tool
