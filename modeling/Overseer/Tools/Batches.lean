import Overseer.Tools.Running
import Overseer.Tools.Searching

/-!
# Batches of arguments

`xargs` runs a program with the words that come in as its arguments, so many at a time.
-/

namespace Overseer.Tool

/-! ## Words -/

/-- Splits a line into words. Quotes and backslashes keep blanks from ending a word; with
`wholeLine` no blank does. Gives the kind of the quote that is not closed if there is one.
`word` is the word so far, backwards. `fuel` bounds the characters. -/
def splitWords (wholeLine : Bool) : (fuel : Nat) → (word : Option (List Char)) → List Char →
    Except Char (List Octets)
  | 0, _, _ => .ok []
  | _, word, [] => .ok (word.toList.map fun chars => String.ofList chars.reverse)
  | fuel + 1, word, c :: rest =>
    if (c = ' ' || c = '\t') && (!wholeLine || word.isNone) then do
      let others ← splitWords wholeLine fuel none rest
      return (word.toList.map fun chars => String.ofList chars.reverse) ++ others
    else if c = '\'' || c = '"' then
      let (quoted, after) := rest.span (· ≠ c)
      match after with
      | [] => .error c
      | _ :: after => splitWords wholeLine fuel (some (quoted.reverse ++ word.getD [])) after
    else if c = '\\' then
      match rest with
      | [] => splitWords wholeLine fuel word []
      | next :: rest => splitWords wholeLine fuel (some (next :: word.getD [])) rest
    else splitWords wholeLine fuel (some (c :: word.getD [])) rest

/-! ## Batches -/

/-- How arguments are put together. -/
structure BatchStyle where
  /-- The words of the program itself. -/
  words : List Octets
  /-- The text that stands for a line in them. -/
  place : Option Octets
  /-- The character that ends an argument, if only one does. -/
  separator : Option Octets
  /-- The greatest number of arguments and of lines, and the greatest size of all words. -/
  mostWords : Option Nat
  mostLines : Option Nat
  mostSize : Nat
  /-- The word that ends the input. -/
  lastWord : Option Octets
  runsEmpty : Bool
  shows : Bool

/-- The words that are being put together. -/
structure Batch where
  /-- The words, latest first. -/
  words : List Octets := []
  size : Nat := 0
  lines : Nat := 0

namespace BatchStyle

/-- The size of words, each with its end. -/
def sizeOf (words : List Octets) : Nat := words.foldl (fun size word => size + word.length + 1) 0

/-- The words of a line; none at the word that ends the input. -/
def wordsOf (style : BatchStyle) (line : Octets) : Except Char (List Octets × Bool) := do
  match style.separator with
  | some _ => return ([line], false)
  | none =>
    let words ← splitWords style.place.isSome (line.length + 1) none line.toList
    match style.lastWord with
    | none => return (words, false)
    | some last =>
      let kept := words.takeWhile (· ≠ last)
      return (kept, kept.length < words.length)

/-- Whether a batch can take no more. -/
def isFull (style : BatchStyle) (batch : Batch) : Bool :=
  style.mostWords.any (· ≤ batch.words.length) || style.mostLines.any (· ≤ batch.lines) ||
    (style.place.isSome && !batch.words.isEmpty)

/-- The words that a batch is run with. -/
def commandOf (style : BatchStyle) (batch : Batch) : List Octets :=
  match style.place with
  | none => style.words ++ batch.words.reverse
  | some place => style.words.map fun word => word.replace place (batch.words.headD "")

end BatchStyle

/-- Runs the program with the words of a batch. Gives the status for what went wrong, and
whether that ends everything. -/
def runBatch (launch : Launch) (invocation : Invocation) (style : BatchStyle) (batch : Batch) :
    Work (Nat × Bool) := do
  let words := style.commandOf batch
  let name := words.headD ""
  if style.shows then
    let _ ← Work.write 2 (" ".intercalate words ++ "\n")
  let searchPath := (invocation.environment.lookup "PATH").getD standardSearchPath
  let called := { invocation with name, arguments := words.drop 1 }
  let tree ← Work.tree
  let resolved := do
    let (path, file) ← tree.findProgram invocation.folder searchPath name
    tree.resolve path interpreterLimit file called
  match resolved with
  | .error fault => do
    warn invocation (name ++ ": " ++ fault.text)
    return (if fault = .missing then 127 else 126, true)
  | .ok (program, called) => do
    let child ← Work.fork fun _ => Work.toCourse do
      match ← Work.openFile invocation.folder "/dev/null" .forReading 0 with
      | .ok stream => Work.place 0 stream
      | .error _ => Work.close 0
      Work.become launch program called
    match ← Work.await (some child) false with
    | .child _ (.exited 0) => return (0, false)
    | .child _ (.exited 255) => do
      warn invocation (name ++ ": exited with status 255; aborting")
      return (124, true)
    | .child _ (.exited _) => return (123, false)
    | .child _ (.ended signal) => do
      warn invocation (name ++ ": terminated by signal " ++ Nat.repr signal)
      return (125, true)
    | _ => return (1, true)

/-- What has been done so far. -/
structure BatchState where
  reader : LineReader
  batch : Batch := {}
  status : Nat := 0
  hasRun : Bool := false
  /-- The words of the line that are still to be taken. -/
  waiting : List Octets := []
  isAtEnd : Bool := false

/-- Runs a batch and begins another one. -/
def finishBatch (launch : Launch) (invocation : Invocation) (style : BatchStyle)
    (state : BatchState) : Work (BatchState ⊕ Nat) := do
  let (status, isLast) ← runBatch launch invocation style state.batch
  if isLast then return .inr status
  else
    return .inl { state with batch := {}, hasRun := true, status := if status = 0 then state.status else status }

/-- Takes the next word or line. -/
def batchStep (launch : Launch) (invocation : Invocation) (style : BatchStyle)
    (state : BatchState) : Work (BatchState ⊕ Nat) := do
  match state.waiting with
  | word :: waiting =>
    let size := state.batch.size + word.length + 1
    if style.mostSize < size && !state.batch.words.isEmpty then
      finishBatch launch invocation style state
    else if style.mostSize < size then
      fail invocation 1 "argument line too long"
    else
      let batch := { state.batch with words := word :: state.batch.words, size }
      let batch := if waiting.isEmpty then { batch with lines := batch.lines + 1 } else batch
      let state := { state with batch, waiting }
      if style.isFull batch then finishBatch launch invocation style state
      else return .inl state
  | [] =>
    let (line, reader) ←
      if state.isAtEnd then pure (none, state.reader) else state.reader.next invocation
    let state := { state with reader }
    match line with
    | none =>
      if reader.failed then return .inr 1
      else if state.batch.words.isEmpty && (state.hasRun || !style.runsEmpty) then
        return .inr state.status
      else do
        match ← finishBatch launch invocation style state with
        | .inl state => return .inr state.status
        | .inr status => return .inr status
    | some line =>
      match style.wordsOf line.text with
      | .error quote =>
        fail invocation 1 ("unmatched " ++ (if quote = '"' then "double" else "single") ++
          " quote; by default quotes are special to xargs unless you use the -0 option")
      | .ok (words, isAtEnd) => return .inl { state with waiting := words, isAtEnd }

/-- The character that an option names as the end of an argument. -/
def namedSeparator? (text : Octets) : Option Octets :=
  let style : EscapeStyle :=
    { letters := EscapeStyle.controlLetters, octal := true, hexadecimal := true }
  match text.toList with
  | [c] => some (String.singleton c)
  | '\\' :: rest =>
    match style.read? rest with
    | some (c, []) => some (String.singleton c)
    | _ => none
  | _ => none

def batchRules : List OptionRule :=
  [⟨'0', "null", .nothing⟩, ⟨'a', "arg-file", .needed⟩, ⟨'d', "delimiter", .needed⟩,
   ⟨'E', "", .needed⟩, ⟨'e', "eof", .optional⟩, ⟨'I', "", .needed⟩, ⟨'i', "replace", .optional⟩,
   ⟨'L', "max-lines", .needed⟩, ⟨'l', "", .optional⟩, ⟨'n', "max-args", .needed⟩,
   ⟨'P', "max-procs", .needed⟩, ⟨'r', "no-run-if-empty", .nothing⟩, ⟨'s', "max-chars", .needed⟩,
   ⟨'t', "verbose", .nothing⟩, ⟨'x', "exit", .nothing⟩, ⟨'o', "open-tty", .nothing⟩,
   ⟨'p', "interactive", .nothing⟩]

def xargs (launch : Launch) : Tool := fun invocation => do
  let parsed ← parse invocation batchRules 1 true
  let count (letter : Char) : Work (Option Nat) := do
    match parsed.value? letter with
    | none | some "" => return none
    | some text =>
      match naturalOf? text.toList with
      | some 0 =>
        fail invocation 1
          ("value 0 for -" ++ String.singleton letter ++ " option should be >= 1")
      | some count => return some count
      | none =>
        fail invocation 1
          ("invalid number \"" ++ text ++ "\" for -" ++ String.singleton letter ++ " option")
  let place :=
    match parsed.lastOf ['I', 'i', 'L', 'l', 'n'] with
    | some 'I' => parsed.value? 'I'
    | some 'i' => some (if parsed.value? 'i' = some "" then "\x7b\x7d" else (parsed.value? 'i').getD "")
    | _ => none
  let mostWords ← if parsed.lastOf ['n', 'L', 'l', 'I', 'i'] = some 'n' then count 'n' else pure none
  let mostLines ←
    match parsed.lastOf ['L', 'l', 'n', 'I', 'i'] with
    | some 'L' => count 'L'
    | some 'l' => do pure (some ((← count 'l').getD 1))
    | _ => pure none
  let separator ←
    match parsed.lastOf ['0', 'd'] with
    | none => pure none
    | some '0' => pure (some "\x00")
    | some _ => do
      let text := (parsed.value? 'd').getD ""
      match namedSeparator? text with
      | some separator => pure (some separator)
      | none =>
        fail invocation 1 ("Invalid input delimiter specification " ++ text ++
          ": the delimiter must be either a single character or an escape sequence starting with \\.")
  let words := if parsed.operands.isEmpty then ["echo"] else parsed.operands
  let mostSize := (← count 's').getD 131072
  let style : BatchStyle :=
    { words, place, separator, mostWords, mostLines
      mostSize := mostSize - BatchStyle.sizeOf words
      lastWord := if (parsed.value? 'E') = some "" then none else parsed.value? 'E'
      runsEmpty := !parsed.has 'r' && place.isNone, shows := parsed.has 't' }
  let report (path : Octets) (fault : FileFault) : Option Octets :=
    some ("Cannot open input file " ++ quote path ++ ": " ++ fault.text)
  let reader : LineReader :=
    { files := [(parsed.value? 'a').getD "-"], ending := separator.getD "\n", report }
  Work.iterate (batchStep launch invocation style) { reader : BatchState }

end Overseer.Tool
