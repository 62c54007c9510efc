import Overseer.Number.Leading
import Overseer.Tools.Joining

/-!
# Tools that count
-/

namespace Overseer.Tool

/-! ## Lines, words and bytes -/

/-- What is counted in a text. -/
structure Counts where
  lines : Nat := 0
  words : Nat := 0
  bytes : Nat := 0
  longest : Nat := 0

def Counts.add (first second : Counts) : Counts :=
  ⟨first.lines + second.lines, first.words + second.words, first.bytes + second.bytes,
    max first.longest second.longest⟩

/-- Goes on counting: the state also holds whether a word has begun, and the length of the
line so far. -/
def countChar (state : Counts × Bool × Nat) (c : Char) : Counts × Bool × Nat :=
  let (counts, inWord, length) := state
  let counts := { counts with bytes := counts.bytes + 1 }
  let counts := if c = '\n' then { counts with lines := counts.lines + 1 } else counts
  if c = '\n' || c = '\r' || c = '\x0c' then
    ({ counts with longest := max counts.longest length }, false, 0)
  else if isSpacing c then
    let width := if c = '\t' then 8 - length % 8 else if c = ' ' then 1 else 0
    (counts, false, length + width)
  else
    ({ counts with words := if inWord then counts.words else counts.words + 1 }, true, length + 1)

/-- Counts what is left in a file. -/
def countRest (number : Nat) : Work (Except FileFault Counts) :=
  Work.iterate (fun state => do
    Work.pause
    match ← Work.read number 65536 with
    | .error fault => return .inr (.error fault)
    | .ok "" =>
      let (counts, _, length) := state
      return .inr (.ok { counts with longest := max counts.longest length })
    | .ok piece => return .inl (piece.toList.foldl countChar state)) (({} : Counts), false, 0)

/-- Counts what is in files. One that cannot be read is passed over with a message. -/
def countFiles (invocation : Invocation) : List Octets → Work (List (Octets × Counts) × Bool)
  | [] => return ([], true)
  | path :: rest => do
    let counted ← do
      match ← openInput invocation path with
      | .error fault => pure (.error fault)
      | .ok number => do
        let counted ← countRest number
        closeInput number
        pure counted
    let (others, isDone) ← countFiles invocation rest
    match counted with
    | .ok counts => return ((path, counts) :: others, isDone)
    | .error fault => do
      warn invocation (unreadable path fault)
      return (if fault = .isFolder then (path, {}) :: others else others, false)

/-- The width of the counts: that of all bytes of plain files, or else seven. -/
def countWidth (invocation : Invocation) (paths : List Octets) : Work Nat := do
  let view ← Work.look
  let sizes := paths.map fun path =>
    let node :=
      if path = "-" then view.files.lookup 0
      else (view.tree.find invocation.folder path true).toOption
    match node.map view.tree.kind with
    | some (.file bytes) => some bytes.size
    | some _ => none
    | none => if path = "-" then none else some 0
  let total := (sizes.map (·.getD 0)).foldl (· + ·) 0
  let width := (Nat.toDigits 10 total).length
  return if sizes.all (·.isSome) then width else max width 7

def wc : Tool := fun invocation => do
  let parsed ← arguments invocation
    [⟨'c', "bytes", .nothing⟩, ⟨'m', "chars", .nothing⟩, ⟨'l', "lines", .nothing⟩,
     ⟨'w', "words", .nothing⟩, ⟨'L', "max-line-length", .nothing⟩]
  let all := parsed.options.isEmpty
  let parts (counts : Counts) : List Nat :=
    (if all || parsed.has 'l' then [counts.lines] else []) ++
      (if all || parsed.has 'w' then [counts.words] else []) ++
      (if parsed.has 'm' then [counts.bytes] else []) ++
      (if all || parsed.has 'c' then [counts.bytes] else []) ++
      (if parsed.has 'L' then [counts.longest] else [])
  let paths := orStandard parsed.operands
  let isSingle := paths.length = 1 && (parts {}).length = 1
  let width ← if isSingle then pure 1 else countWidth invocation paths
  let (counted, isDone) ← countFiles invocation paths
  let line (name : Octets) (counts : Counts) : Octets :=
    let numbers := (parts counts).map fun number =>
      String.ofList ((Nat.toDigits 10 number).leftpad width ' ')
    " ".intercalate (numbers ++ if name.isEmpty then [] else [name]) ++ "\n"
  put invocation (String.join (counted.map fun (path, counts) =>
    line (if parsed.operands.isEmpty then "" else path) counts))
  if 1 < paths.length then
    put invocation (line "total" ((counted.map (·.2)).foldl Counts.add {}))
  return if isDone then 0 else 1

/-! ## Repeated lines -/

/-- The part of a line that is compared. -/
def comparedPart (fields chars : Nat) (most : Option Nat) (folds : Bool) (line : Octets) : Octets :=
  let rec skip : Nat → List Char → List Char
    | 0, text => text
    | count + 1, text => skip count ((text.dropWhile isSpacing).dropWhile fun c => !isSpacing c)
  let text := (skip fields line.toList).drop chars
  let text :=
    match most with
    | some most => text.take most
    | none => text
  String.ofList (if folds then text.map Char.toUpper else text)

/-- Lines that stand together and are alike, with their number. -/
def groupLines (key : Octets → Octets) : List Octets → List (List Octets)
  | [] => []
  | line :: rest =>
    match groupLines key rest with
    | (next :: others) :: groups =>
      if key line = key next then (line :: next :: others) :: groups
      else [line] :: (next :: others) :: groups
    | groups => [line] :: groups

def uniq : Tool := fun invocation => do
  let parsed ← arguments invocation
    [⟨'c', "count", .nothing⟩, ⟨'d', "repeated", .nothing⟩, ⟨'u', "unique", .nothing⟩,
     ⟨'D', "all-repeated", .optional⟩, ⟨'i', "ignore-case", .nothing⟩,
     ⟨'f', "skip-fields", .needed⟩, ⟨'s', "skip-chars", .needed⟩, ⟨'w', "check-chars", .needed⟩,
     ⟨'z', "zero-terminated", .nothing⟩]
  refuseExtra invocation 1 2 parsed.operands
  let number (letter : Char) : Option Nat :=
    (parsed.value? letter).bind fun text => naturalOf? text.toList
  let key := comparedPart ((number 'f').getD 0) ((number 's').getD 0) (number 'w') (parsed.has 'i')
  let path := parsed.operands.headD "-"
  match ← readFile invocation path with
  | .error fault => fail invocation 1 (unreadable path fault)
  | .ok content => do
    let groups := groupLines key (Octets.lines content)
    let isShown (group : List Octets) : Bool :=
      (!parsed.has 'd' || 1 < group.length) && (!parsed.has 'u' || group.length = 1)
    let written (group : List Octets) : Octets :=
      if parsed.has 'D' then
        if 1 < group.length then String.join (group.map (· ++ "\n")) else ""
      else if isShown group then
        (if parsed.has 'c' then
          String.ofList ((Nat.toDigits 10 group.length).leftpad 7 ' ') ++ " "
        else "") ++ group.headD "" ++ "\n"
      else ""
    let output := String.join (groups.map written)
    match parsed.operands[1]? with
    | none => put invocation output
    | some target => do
      let bytes := Octets.toBytes output
      match ← Work.change fun tree => tree.write invocation.folder target bytes 0o644 with
      | none => pure ()
      | some fault => fail invocation 1 (unreadable target fault)
    return 0

end Overseer.Tool
