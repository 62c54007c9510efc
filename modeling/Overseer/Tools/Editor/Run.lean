import Overseer.Tools.Editor.ScriptReader
import Overseer.Tools.Joining

/-!
# Running scripts of the line editor

A cycle reads a line, carries the commands out, and puts out what has become of the line.
What a command adds after the line waits until the cycle ends or another line is read.
-/

namespace Overseer.Editor

open Tool (LineReader Line put warn fail openOutputs)

/-- How far a range of lines has come. -/
inductive RangeState
  | idle
  /-- Within the range, which ends with a line if its number is known. -/
  | active (last : Option Nat)

/-- What is put out after a line. -/
inductive Addition
  | text (octets : Octets)
  | file (path : Octets)

/-- How a script is run. -/
structure RunStyle where
  commands : Array Command
  /-- Whether lines are put out at the end of a cycle. -/
  prints : Bool
  /-- Whether each file has lines of its own numbers. -/
  separates : Bool
  width : Nat
  ending : Octets
  /-- Whether the output is kept as a whole. -/
  keepsOutput : Bool := false
  /-- The numbers of the files that are written. -/
  outputs : List (Octets × Nat)

structure EditState where
  reader : LineReader
  pattern : Octets := ""
  hasEnd : Bool := true
  held : Octets := ""
  number : Nat := 0
  name : Octets := "-"
  /-- The state of the ranges of the commands, by their places. -/
  ranges : List (Nat × RangeState) := []
  wasReplaced : Bool := false
  additions : List Addition := []
  lastRegex : Option Regex := none
  /-- What is still to be put out. -/
  output : Octets := ""
  /-- Whether the output so far lacks a line end. -/
  lacksEnd : Bool := false
  /-- The files that single lines are read from. -/
  lineFiles : List (Octets × LineReader) := []

namespace EditState

/-- The status for a file that could not be read. -/
def faultStatus (state : EditState) : Option Nat :=
  state.reader.fault.map fun fault => if fault = .isFolder then 4 else 2

/-- Adds to the output. -/
def emit (state : EditState) (ending : Octets) (octets : Octets) : EditState :=
  if octets.isEmpty then state
  else
    { state with
      output := state.output ++ (if state.lacksEnd then ending else "") ++ octets, lacksEnd := false }

/-- Adds a line to the output; the last line may lack its end. -/
def emitLine (state : EditState) (ending : Octets) (text : Octets) : EditState :=
  let state := { state with output := state.output ++ if state.lacksEnd then ending else "" }
  if state.hasEnd then { state with output := state.output ++ text ++ ending, lacksEnd := false }
  else { state with output := state.output ++ text, lacksEnd := true }

end EditState

/-- The size that output may grow to before it is written. -/
def outputSize : Nat := 4096

/-- Writes the output. -/
def flush (invocation : Invocation) (state : EditState) : Work EditState := do
  put invocation state.output
  return { state with output := "" }

/-- Puts out what waits for the end of the line. -/
def putAdditions (invocation : Invocation) (style : RunStyle) (state : EditState) :
    Work EditState := do
  let state ← state.additions.reverse.foldlM (fun (state : EditState) addition => do
    match addition with
    | .text octets => return state.emit style.ending octets
    | .file path => do
      match ← Tool.readFile invocation (if path = "/dev/stdin" then "-" else path) with
      | .ok content => return state.emit style.ending content
      | .error _ => return state) state
  let state := { state with additions := [] }
  if !style.keepsOutput && outputSize < state.output.length then flush invocation state else return state

/-- Reads the next line; none if there is none. -/
def readNext (invocation : Invocation) (style : RunStyle) (state : EditState) :
    Work (Option Octets × EditState) := do
  let state ← putAdditions invocation style state
  match ← state.reader.next invocation with
  | (none, reader) => return (none, { state with reader })
  | (some line, reader) =>
    return (some line.text,
      { state with
        reader, hasEnd := line.hasEnd, number := state.number + 1, name := line.file
        wasReplaced := false })

/-- Whether the line is the last one. -/
def isLast (invocation : Invocation) (state : EditState) : Work (Bool × EditState) := do
  let (atEnd, reader) ← state.reader.isAtEnd invocation
  return (atEnd, { state with reader })

/-- The expression that is meant, which is then the last one used. -/
def useRegex (invocation : Invocation) (pattern : SearchPattern) (state : EditState) :
    Work (Regex × EditState) := do
  match pattern, state.lastRegex with
  | some regex, _ => return (regex, { state with lastRegex := some regex })
  | none, some regex => return (regex, state)
  | none, none => fail invocation 1 "-e expression #1, char 0: no previous regular expression"

/-! ## Selecting -/

def meets (invocation : Invocation) (address : Address) (state : EditState) :
    Work (Bool × EditState) := do
  match address with
  | .line number => return (state.number = number, state)
  | .lastLine => isLast invocation state
  | .matching pattern => do
    let (regex, state) ← useRegex invocation pattern state
    return (regex.isIn state.pattern.toList.toArray, state)
  | .every first step =>
    return (if step = 0 then state.number = first
      else first ≤ state.number && (state.number - first) % step = 0, state)

/-- The number of the line that a range ends with, if it is known when the range begins. -/
def lastOfRange (number : Nat) : RangeEnd → Option Nat
  | .address (.line last) => some last
  | .address _ => none
  | .later count => some (number + count)
  | .multiple factor =>
    some (if factor = 0 then number else (number / factor + 1) * factor)

/-- Whether a command is meant for the line, its negation aside. -/
def isInRange (invocation : Invocation) (place : Nat) (selector : Selector) (state : EditState) :
    Work (Bool × EditState) := do
  let enter (range : RangeState) (state : EditState) : EditState :=
    { state with ranges := (place, range) :: state.ranges.filter (·.1 ≠ place) }
  match selector.first, selector.last with
  | none, _ => return (true, state)
  | some first, none => meets invocation first state
  | some first, some last => do
    let range :=
      (state.ranges.lookup place).getD (if selector.beginsEarly then .active none else .idle)
    match range with
    | .idle => do
      let (begins, state) ← meets invocation first state
      if !begins then return (false, state)
      else
        let end? := lastOfRange state.number last
        if end?.any (· ≤ state.number) then return (true, enter .idle state)
        else return (true, enter (.active end?) state)
    | .active (some end_) =>
      return (state.number ≤ end_,
        if end_ ≤ state.number then enter .idle state else state)
    | .active none =>
      match last with
      | .address address => do
        let (ends, state) ← meets invocation address state
        return (true, if ends then enter .idle state else enter range state)
      | _ => return (true, enter .idle state)

/-- Whether a range goes on after this line. -/
def goesOn (place : Nat) (state : EditState) : Bool :=
  match state.ranges.lookup place with
  | some (.active _) => true
  | _ => false

/-! ## Commands -/

/-- What comes after a command. -/
inductive After
  | next
  | jump (place : Nat)
  /-- The end of the cycle, where the line may be put out. -/
  | finish (prints : Bool)
  /-- Another cycle without another line. -/
  | restart
  | quit (status : Nat) (prints : Bool)

/-- The place after the closing brace of a block; `depth` is the number of blocks in it. -/
def afterBlock (commands : Array Command) : (fuel : Nat) → (depth place : Nat) → Nat
  | 0, _, place => place
  | fuel + 1, depth, place =>
    match (commands[place]?).map Command.action with
    | none => place
    | some Action.open => afterBlock commands fuel (depth + 1) (place + 1)
    | some Action.close =>
      if depth = 0 then place + 1 else afterBlock commands fuel (depth - 1) (place + 1)
    | some _ => afterBlock commands fuel depth (place + 1)

/-- The place of a label, or the end of the script. -/
def labelPlace (commands : Array Command) (label : Option Octets) : Nat :=
  match label with
  | none => commands.size
  | some name =>
    (commands.toList.findIdx? fun command =>
      match command.action with
      | .label other => other = name
      | _ => false).getD commands.size

/-- The part of a text up to its first line end, and the part after it. -/
def splitFirst (text : Octets) : Octets × Option Octets :=
  match text.toList.span (· ≠ '\n') with
  | (first, []) => (String.ofList first, none)
  | (first, _ :: rest) => (String.ofList first, some (String.ofList rest))

/-- Writes a line to a file of the script, or to the output. -/
def writeTo (style : RunStyle) (path text : Octets) (state : EditState) : Work EditState := do
  if path = "/dev/stdout" then return state.emit style.ending (text ++ style.ending)
  else do
    match style.outputs.lookup path with
    | some number => do
      let _ ← Work.write number (text ++ style.ending)
      return state
    | none => return state

/-- Reads a line of a file of its own. -/
def readLineOf (invocation : Invocation) (path : Octets) (state : EditState) : Work EditState := do
  let reader : LineReader :=
    (state.lineFiles.lookup path).getD { files := [path], report := fun _ _ => none }
  let (line, reader) ← reader.next invocation
  let lineFiles := (path, reader) :: state.lineFiles.filter (·.1 ≠ path)
  let state := { state with lineFiles }
  match line with
  | some line => return { state with additions := .text (line.text ++ "\n") :: state.additions }
  | none => return state

def substituteIn (invocation : Invocation) (style : RunStyle) (substitution : Substitution)
    (state : EditState) : Work EditState := do
  let (regex, state) ← useRegex invocation substitution.pattern state
  match substitution.apply? regex state.pattern with
  | none => return state
  | some pattern => do
    let state := { state with pattern, wasReplaced := true }
    let state := if substitution.prints then state.emitLine style.ending pattern else state
    match substitution.file with
    | some path => writeTo style path pattern state
    | none => return state

/-- Carries a command out. -/
def perform (invocation : Invocation) (style : RunStyle) (place : Nat) (action : Action)
    (state : EditState) : Work (After × EditState) := do
  let go (state : EditState) : Work (After × EditState) := return (.next, state)
  match action with
  | .open | .close | .label _ => go state
  | .branch none label => return (.jump (labelPlace style.commands label), state)
  | .branch (some wanted) label =>
    let target := labelPlace style.commands label
    if state.wasReplaced = wanted then return (.jump target, { state with wasReplaced := false })
    else return (.next, { state with wasReplaced := false })
  | .append text => go { state with additions := .text text :: state.additions }
  | .insert text => go (state.emit style.ending text)
  | .change text =>
    return (.finish false, if goesOn place state then state else state.emit style.ending text)
  | .delete => return (.finish false, state)
  | .deleteFirst =>
    match splitFirst state.pattern with
    | (_, none) => return (.finish false, state)
    | (_, some rest) => return (.restart, { state with pattern := rest })
  | .print => go (state.emitLine style.ending state.pattern)
  | .printFirst => go (state.emit style.ending ((splitFirst state.pattern).1 ++ style.ending))
  | .printNumber => go (state.emit style.ending (Nat.repr state.number ++ "\n"))
  | .printName => go (state.emit style.ending (state.name ++ "\n"))
  | .printPlainly width =>
    let text := String.ofList (plainText (width.getD style.width) 0 state.pattern.toList)
    go (state.emit style.ending text)
  | .hold => go { state with held := state.pattern }
  | .holdMore => go { state with held := state.held ++ style.ending ++ state.pattern }
  | .get => go { state with pattern := state.held }
  | .getMore => go { state with pattern := state.pattern ++ style.ending ++ state.held }
  | .exchange => go { state with pattern := state.held, held := state.pattern }
  | .clear => go { state with pattern := "" }
  | .next => do
    let (atEnd, state) ← isLast invocation state
    if atEnd then return (.finish true, state)
    else
      let state := if style.prints then state.emitLine style.ending state.pattern else state
      match ← readNext invocation style state with
      | (some text, state) => go { state with pattern := text }
      | (none, state) => return (.finish false, state)
  | .nextMore => do
    let (atEnd, state) ← isLast invocation state
    if atEnd then return (.finish true, state)
    else
      match ← readNext invocation style state with
      | (some text, state) => go { state with pattern := state.pattern ++ style.ending ++ text }
      | (none, state) => return (.finish true, state)
  | .quit status prints => return (.quit status prints, state)
  | .readFile path => go { state with additions := .file path :: state.additions }
  | .readLine path => do go (← readLineOf invocation path state)
  | .writeFile path => do go (← writeTo style path state.pattern state)
  | .writeFirst path => do go (← writeTo style path (splitFirst state.pattern).1 state)
  | .substitute substitution => do go (← substituteIn invocation style substitution state)
  | .transliterate before after =>
    let changed := state.pattern.toList.map fun c =>
      ((before.zip after).lookup c).getD c
    go { state with pattern := String.ofList changed }

/-- Carries the commands out for a line. -/
def runCommands (invocation : Invocation) (style : RunStyle) (state : EditState) :
    Work (After × EditState) :=
  Work.iterate (fun (place, state) => do
    match style.commands[place]? with
    | none => return .inr (.finish true, state)
    | some command => do
      let (isIn, state) ← isInRange invocation place command.selector state
      if isIn = command.selector.negated then
        match command.action with
        | .open => return .inl (afterBlock style.commands style.commands.size 0 (place + 1), state)
        | _ => return .inl (place + 1, state)
      else do
        match ← perform invocation style place command.action state with
        | (.next, state) => return .inl (place + 1, state)
        | (.jump target, state) => do
          if target ≤ place then Work.pause
          return .inl (target, state)
        | (after, state) => return .inr (after, state)) (0, state)

/-- Goes through the lines of the files. Gives the status of a command that ends the script. -/
def runCycles (invocation : Invocation) (style : RunStyle) (start : EditState) :
    Work (Option Nat × EditState) :=
  Work.iterate (fun (needsLine, state) => do
    let (line, state) ←
      if needsLine then readNext invocation style state
      else do
        let state ← putAdditions invocation style state
        pure (some state.pattern, state)
    match line with
    | none => return .inr (none, state)
    | some pattern => do
      match ← runCommands invocation style { state with pattern } with
      | (.finish prints, state) =>
        return .inl (true,
          if prints && style.prints then state.emitLine style.ending state.pattern else state)
      | (.restart, state) => return .inl (false, state)
      | (.quit status prints, state) => do
        let state :=
          if prints && style.prints then state.emitLine style.ending state.pattern else state
        let state ← putAdditions invocation style state
        state.reader.giveBack
        return .inr (some status, state)
      | (_, state) => return .inl (true, state)) (true, start)

/-! ## Files -/

/-- How a file that cannot be read is reported. -/
def report (path : Octets) (fault : FileFault) : Option Octets :=
  some (if fault = .isFolder then "read error on " ++ path ++ ": " ++ fault.text
    else "can't read " ++ path ++ ": " ++ fault.text)

def readerOf (style : RunStyle) (files : List Octets) : LineReader :=
  { files, ending := style.ending, report }

/-- The files that a script writes. -/
def writtenFiles (commands : List Command) : List Octets :=
  (commands.filterMap fun command =>
    match command.action with
    | .writeFile path | .writeFirst path => some path
    | .substitute substitution => substitution.file
    | _ => none).eraseDups.filter (· ≠ "/dev/stdout")

/-- A label that a command goes on at and that is not there. -/
def missingLabel? (commands : List Command) : Option Octets :=
  let labels := commands.filterMap fun command =>
    match command.action with
    | .label name => some name
    | _ => none
  commands.findSome? fun command =>
    match command.action with
    | .branch _ (some name) => if labels.contains name then none else some name
    | _ => none

/-- Edits a file in its place; a suffix may say that the old content is kept under another
name. Gives the state, the status of a command that ends the script, and one for faults. -/
def editInPlace (invocation : Invocation) (style : RunStyle) (suffix path : Octets)
    (state : EditState) : Work (Option Nat × Nat × EditState) := do
  let tree ← Work.tree
  match tree.find invocation.folder path true with
  | .error fault => do
    warn invocation ("can't read " ++ path ++ ": " ++ fault.text)
    return (none, 2, state)
  | .ok node =>
    match tree.kind node with
    | .file content => do
      let mode := (tree.node node).mode
      let start :=
        { state with
          reader := readerOf style [path], number := 0, ranges := [], output := ""
          lacksEnd := false }
      let style := { style with keepsOutput := true }
      let (status, state) ← runCycles invocation style start
      let state ← putAdditions invocation style state
      if !suffix.isEmpty then
        let backup := if suffix.contains '*' then suffix.replace "*" path else path ++ suffix
        let _ ← Work.change fun tree => tree.write invocation.folder backup content mode
      let _ ← Work.change fun tree =>
        tree.write invocation.folder path (Octets.toBytes state.output) mode
      return (status, 0, { state with output := "" })
    | _ => do
      warn invocation ("couldn't edit " ++ path ++ ": not a regular file")
      return (none, 4, state)

end Overseer.Editor
