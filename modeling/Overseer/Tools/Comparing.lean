import Overseer.Text.Differences
import Overseer.Tools.Amount
import Overseer.Tools.Dates
import Overseer.Tools.Joining

/-!
# Comparing files
-/

namespace Overseer.Tool

/-! ## Byte by byte -/

/-- The place of the first byte in which two files differ, and the line that it is in. -/
def firstDifference? : (place line : Nat) → List Char → List Char → Option (Nat × Nat)
  | place, line, a :: first, b :: second =>
    if a = b then firstDifference? (place + 1) (if a = '\n' then line + 1 else line) first second
    else some (place, line)
  | _, _, _, _ => none

/-- All bytes in which two files differ, with their places. -/
def allDifferences : (place : Nat) → List Char → List Char → List (Nat × Char × Char)
  | place, a :: first, b :: second =>
    if a = b then allDifferences (place + 1) first second
    else (place, a, b) :: allDifferences (place + 1) first second
  | _, _, _ => []

def octalText (c : Char) : Octets := String.ofList ((Nat.toDigits 8 c.toNat).leftpad 3 ' ')

/-- A byte as it can be shown. -/
def shownByte (c : Char) : Octets := String.ofList (visible c)

/-- Says that a file ends before the other one. -/
def warnOfEnd (invocation : Invocation) (name : Octets) (shorter : List Char) : Work Unit := do
  let lines := shorter.countP (· = '\n')
  warn invocation ("EOF on " ++ name ++
    if shorter.isEmpty then " which is empty"
    else
      " after byte " ++ Nat.repr shorter.length ++
        if shorter.getLast? = some '\n' then ", line " ++ Nat.repr lines
        else ", in line " ++ Nat.repr (lines + 1))

def cmp : Tool := fun invocation => do
  let parsed ← parse invocation
    [⟨'s', "quiet", .nothing⟩, ⟨'s', "silent", .nothing⟩, ⟨'l', "verbose", .nothing⟩,
     ⟨'b', "print-bytes", .nothing⟩, ⟨'n', "bytes", .needed⟩, ⟨'i', "ignore-initial", .needed⟩] 2 false
  let (first, second, skips) ←
    match parsed.operands with
    | [] => misuse invocation 2 ("missing operand after " ++ quote invocation.name)
    | [first] => pure (first, "-", [])
    | first :: second :: skips => pure (first, second, skips)
  let amount (text : Octets) : Work Nat := do
    match amountOf? text with
    | some amount => return amount
    | none => misuse invocation 2 ("invalid --bytes value " ++ quote text)
  let skipped ← ((((parsed.value? 'i').toList.flatMap (·.splitOn ":")) ++ skips).mapM amount)
  let content (path : Octets) : Work Octets := do
    match ← readFile invocation path with
    | .ok content => return content
    | .error fault => do
      if !parsed.has 's' then warn invocation (path ++ ": " ++ fault.text)
      Work.exit 2
  let firstSkip := skipped.headD 0
  let secondSkip := (skipped[1]?).getD (if parsed.has 'i' then firstSkip else 0)
  let firstContent ← content first
  let secondContent ← content second
  let most ← (parsed.value? 'n').mapM amount
  let bounded (chars : List Char) : List Char :=
    match most with
    | some most => chars.take most
    | none => chars
  let firstBytes := bounded (firstContent.toList.drop firstSkip)
  let secondBytes := bounded (secondContent.toList.drop secondSkip)
  let shorter := if firstBytes.length < secondBytes.length then first else second
  let ending : Work Unit := do
    if firstBytes.length ≠ secondBytes.length && !parsed.has 's' then
      warnOfEnd invocation shorter
        (if firstBytes.length < secondBytes.length then firstBytes else secondBytes)
  if parsed.has 'l' then do
    let differences := allDifferences 1 firstBytes secondBytes
    let width := (Nat.toDigits 10 (max firstBytes.length secondBytes.length)).length
    put invocation (String.join (differences.map fun (place, a, b) =>
      let number := String.ofList ((Nat.toDigits 10 place).leftpad width ' ')
      if parsed.has 'b' then
        let shown := String.ofList ((shownByte a).toList.rightpad 4 ' ')
        number ++ " " ++ octalText a ++ " " ++ shown ++ " " ++ octalText b ++ " " ++ shownByte b ++ "\n"
      else number ++ " " ++ octalText a ++ " " ++ octalText b ++ "\n"))
    ending
    return if differences.isEmpty && firstBytes.length = secondBytes.length then 0 else 1
  else
    match firstDifference? 1 1 firstBytes secondBytes with
    | some (place, line) => do
      if !parsed.has 's' then
        let a := (firstBytes[place - 1]?).getD ' '
        let b := (secondBytes[place - 1]?).getD ' '
        put invocation (first ++ " " ++ second ++ " differ: " ++
          (if parsed.has 'b' then "byte " else "char ") ++ Nat.repr place ++ ", line " ++ Nat.repr line ++
          (if parsed.has 'b' then
            " is " ++ octalText a ++ " " ++ shownByte a ++ " " ++ octalText b ++ " " ++ shownByte b
          else "") ++ "\n")
      return 1
    | none => do
      ending
      return if firstBytes.length = secondBytes.length then 0 else 1

/-! ## Line by line -/

/-- How lines are compared and differences are shown. -/
structure DiffStyle where
  /-- What of a line counts. -/
  key : Octets → Octets
  /-- The number of lines around a change; none where they are not shown. -/
  context : Option Nat
  isBrief : Bool
  saysSame : Bool
  recurses : Bool
  /-- Whether a missing file counts as an empty one. -/
  fillsIn : Bool
  /-- The options as they are shown in a folder. -/
  shownOptions : List Octets

namespace DiffStyle

def lineText (sign : Octets) (line : Octets) : Octets :=
  sign ++ line ++ if line.endsWith "\n" then "" else "\n\\ No newline at end of file\n"

/-- The numbers of lines that a change is about; the line before it if it is about none. -/
def rangeText (start count : Nat) : Octets :=
  if count = 0 then Nat.repr start
  else if count = 1 then Nat.repr (start + 1)
  else Nat.repr (start + 1) ++ "," ++ Nat.repr (start + count)

/-- A change as it is shown on its own. -/
def changeText (first second : List Octets) (change : Difference) : Octets :=
  let removed := (first.drop change.first).take change.removed
  let added := (second.drop change.second).take change.added
  let letter := if change.removed = 0 then "a" else if change.added = 0 then "d" else "c"
  rangeText change.first change.removed ++ letter ++ rangeText change.second change.added ++ "\n" ++
    String.join (removed.map (lineText "< ")) ++
    (if letter = "c" then "---\n" else "") ++ String.join (added.map (lineText "> "))

/-- Changes that are shown together since the lines between them are few. -/
def hunks (context : Nat) : List Difference → List (List Difference)
  | [] => []
  | change :: rest =>
    match hunks context rest with
    | (next :: others) :: hunks =>
      if next.first ≤ change.first + change.removed + 2 * context then
        (change :: next :: others) :: hunks
      else [change] :: (next :: others) :: hunks
    | hunks => [change] :: hunks

/-- The range of a hunk: where it starts and how long it is. -/
def hunkRange (start count : Nat) : Octets :=
  let start := if count = 0 then start else start + 1
  if count = 1 then Nat.repr start else Nat.repr start ++ "," ++ Nat.repr count

/-- The lines of a hunk from a place in the first file on. -/
def hunkLines (first second : List Octets) (stop : Nat) : (place : Nat) → List Difference → Octets
  | place, [] => String.join (((first.take stop).drop place).map (lineText " "))
  | place, change :: rest =>
    String.join (((first.take change.first).drop place).map (lineText " ")) ++
      String.join (((first.drop change.first).take change.removed).map (lineText "-")) ++
      String.join (((second.drop change.second).take change.added).map (lineText "+")) ++
      hunkLines first second stop (change.first + change.removed) rest

def hunkText (context : Nat) (first second : List Octets) (changes : List Difference) : Octets :=
  match changes.head?, changes.getLast? with
  | some start, some last =>
    let before := min context (min start.first start.second)
    let after := min context (first.length - (last.first + last.removed))
    let from_ := start.first - before
    let stop := last.first + last.removed + after
    let secondFrom := start.second - before
    let secondStop := last.second + last.added + after
    "@@ -" ++ hunkRange from_ (stop - from_) ++ " +" ++
      hunkRange secondFrom (secondStop - secondFrom) ++ " @@\n" ++
      hunkLines first second stop from_ changes
  | _, _ => ""

end DiffStyle

/-- A file that is compared: its name, its lines and when it was changed. -/
structure DiffSide where
  name : Octets
  content : Octets
  changed : Instant

def DiffSide.header (side : DiffSide) (sign : Octets) : Octets :=
  sign ++ " " ++ side.name ++ "\t" ++
    (CalendarTime.ofInstant side.changed).format "%Y-%m-%d %H:%M:%S.%N +0000" ++ "\n"

/-- Compares two files, and gives the status. -/
def diffFiles (invocation : Invocation) (style : DiffStyle) (before : Octets)
    (first second : DiffSide) : Work Nat := do
  let firstLines := linesWithEnds first.content
  let secondLines := linesWithEnds second.content
  let isSame := firstLines.map style.key == secondLines.map style.key
  if isSame then do
    if style.saysSame then
      put invocation ("Files " ++ first.name ++ " and " ++ second.name ++ " are identical\n")
    return 0
  else if style.isBrief then do
    put invocation ("Files " ++ first.name ++ " and " ++ second.name ++ " differ\n")
    return 1
  else if first.content.contains '\x00' || second.content.contains '\x00' then do
    put invocation ("Binary files " ++ first.name ++ " and " ++ second.name ++ " differ\n")
    return 2
  else do
    let changes := Difference.between (firstLines.map style.key) (secondLines.map style.key)
    match style.context with
    | none =>
      put invocation
        (before ++ String.join (changes.map (DiffStyle.changeText firstLines secondLines)))
    | some context =>
      put invocation (before ++ first.header "---" ++ second.header "+++" ++
        String.join ((DiffStyle.hunks context changes).map
          (DiffStyle.hunkText context firstLines secondLines)))
    return 1

/-- A file to be compared. -/
def diffSide (invocation : Invocation) (path : Octets) : Work (Except FileFault DiffSide) := do
  match ← readFile invocation path with
  | .error fault => return .error fault
  | .ok content => do
    let changed ←
      match ← nodeAt invocation path true with
      | .ok (tree, node) => pure (changeTime tree node)
      | .error _ => Work.now
    return .ok ⟨path, content, changed⟩

/-- Compares what two paths lead to; `levels` bounds the folders in each other. -/
def diffPaths (invocation : Invocation) (style : DiffStyle) : (levels : Nat) → (before : Octets) →
    Octets → Octets → Work Nat
  | 0, _, _, _ => return 2
  | levels + 1, before, first, second => do
    let tree ← Work.tree
    let folder? (path : Octets) : Option Nat :=
      if path = "-" then none
      else (tree.find invocation.folder path true).toOption.filter tree.isFolder
    match folder? first, folder? second with
    | some firstNode, some secondNode => do
      let names := (tree.names firstNode ++ tree.names secondNode).mergeSort fun a b =>
        !Octets.isBefore b a
      let statuses ← names.eraseDups.mapM fun name => do
        let firstPath := joinPath first name
        let secondPath := joinPath second name
        let only (folder : Octets) : Work Nat := do
          put invocation ("Only in " ++ folder ++ ": " ++ name ++ "\n")
          return 1
        match tree.entry? firstNode name, tree.entry? secondNode name with
        | some _, none =>
          if style.fillsIn then diffPaths invocation style levels before firstPath secondPath
          else only first
        | none, some _ =>
          if style.fillsIn then diffPaths invocation style levels before firstPath secondPath
          else only second
        | some firstInner, some secondInner =>
          if tree.isFolder firstInner && tree.isFolder secondInner && !style.recurses then do
            put invocation
              ("Common subdirectories: " ++ firstPath ++ " and " ++ secondPath ++ "\n")
            return 0
          else
            let words := ["diff"] ++ style.shownOptions ++ [firstPath, secondPath]
            diffPaths invocation style levels (" ".intercalate words ++ "\n") firstPath secondPath
        | none, none => return 0
      return statuses.foldl max 0
    | some _, none => diffPaths invocation style levels before (joinPath first (lastStep second)) second
    | none, some _ => diffPaths invocation style levels before first (joinPath second (lastStep first))
    | none, none => do
      let firstSide ← diffSide invocation first
      let secondSide ← diffSide invocation second
      let missing (name : Octets) : DiffSide := ⟨name, "", .ofSeconds 0⟩
      match firstSide, secondSide with
      | .ok firstSide, .ok secondSide => diffFiles invocation style before firstSide secondSide
      | .ok firstSide, .error .missing =>
        if style.fillsIn then diffFiles invocation style before firstSide (missing second)
        else fail invocation 2 (second ++ ": No such file or directory")
      | .error .missing, .ok secondSide =>
        if style.fillsIn then diffFiles invocation style before (missing first) secondSide
        else fail invocation 2 (first ++ ": No such file or directory")
      | firstSide, secondSide => do
        for (path, side) in [(first, firstSide), (second, secondSide)] do
          match side with
          | .error fault => warn invocation (path ++ ": " ++ fault.text)
          | .ok _ => pure ()
        return 2

/-- What of a line counts if blanks do not, or not how many of them there are. -/
def withoutBlanks (all : Bool) (line : Octets) : Octets :=
  let words := (line.toList.splitOnP isSpacing).filter (!·.isEmpty)
  let starts := line.toList.head?.any isSpacing && !words.isEmpty
  if all then String.ofList words.flatten
  else (if starts then " " else "") ++ " ".intercalate (words.map String.ofList)

def diff : Tool := fun invocation => do
  let parsed ← parse invocation
    [⟨'q', "brief", .nothing⟩, ⟨'s', "report-identical-files", .nothing⟩, ⟨'u', "", .nothing⟩,
     ⟨'U', "", .needed⟩, ⟨'\x13', "unified", .optional⟩, ⟨'r', "recursive", .nothing⟩, ⟨'N', "new-file", .nothing⟩,
     ⟨'i', "ignore-case", .nothing⟩, ⟨'w', "ignore-all-space", .nothing⟩,
     ⟨'b', "ignore-space-change", .nothing⟩, ⟨'a', "text", .nothing⟩, ⟨'d', "minimal", .nothing⟩,
     ⟨'t', "expand-tabs", .nothing⟩, ⟨'\x10', "normal", .nothing⟩,
     ⟨'\x11', "color", .optional⟩, ⟨'\x12', "strip-trailing-cr", .nothing⟩] 2 false
  match parsed.operands with
  | [] => misuse invocation 2 ("missing operand after " ++ quote invocation.name)
  | [only] => misuse invocation 2 ("missing operand after " ++ quote only)
  | first :: second :: rest => do
    refuseExtra invocation 2 0 rest
    let context :=
      match parsed.lastOf ['u', 'U', '\x13', '\x10'] with
      | some 'u' => some 3
      | some 'U' => some (((parsed.value? 'U').bind fun text => naturalOf? text.toList).getD 3)
      | some '\x13' =>
        some (((parsed.value? '\x13').bind fun text => naturalOf? text.toList).getD 3)
      | _ => none
    let key (line : Octets) : Octets :=
      let line := if parsed.has 'i' then line.toLower else line
      if parsed.has 'w' then withoutBlanks true line
      else if parsed.has 'b' then withoutBlanks false line
      else line
    let style : DiffStyle :=
      { key, context, isBrief := parsed.has 'q', saysSame := parsed.has 's'
        recurses := parsed.has 'r', fillsIn := parsed.has 'N'
        shownOptions := invocation.arguments.filter fun word =>
          word.startsWith "-" && word ≠ "-" && word ≠ "--" }
    diffPaths invocation style 100 "" first second

end Overseer.Tool
