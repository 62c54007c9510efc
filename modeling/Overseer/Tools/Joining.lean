import Overseer.Tools.Amount
import Overseer.Tools.Input

/-!
# Tools that put files together or show parts of them
-/

namespace Overseer.Tool

/-! ## Whole files -/

/-- How `cat` changes lines. -/
structure CatStyle where
  numbers : Bool
  numbersFilled : Bool
  squeezes : Bool
  marksEnds : Bool
  marksTabs : Bool
  showsControls : Bool

/-- A byte as it is shown if it is no printable character. -/
def visible (c : Char) : List Char :=
  let code := c.toNat
  let shown (code : Nat) : List Char :=
    if code < 32 then ['^', Char.ofNat (code + 64)]
    else if code = 127 then ['^', '?']
    else [Char.ofNat code]
  if code < 128 then shown code else 'M' :: '-' :: shown (code - 128)

def CatStyle.text (style : CatStyle) (text : Octets) : Octets :=
  let show' (c : Char) : List Char :=
    if c = '\t' then (if style.marksTabs then ['^', 'I'] else [c])
    else if style.showsControls then visible c
    else [c]
  if style.marksTabs || style.showsControls then String.ofList (text.toList.flatMap show') else text

/-- A number before a line. -/
def lineNumber (number : Nat) : Octets :=
  String.ofList ((Nat.toDigits 10 number).leftpad 6 ' ') ++ "\t"

/-- One line as it is shown; the state holds the number of the last line, how many empty
lines were before, and whether a line has begun. -/
def CatStyle.line (style : CatStyle) (state : Nat × Nat × Bool) (line : Line) :
    (Nat × Nat × Bool) × Octets :=
  let (number, empties, isOpen) := state
  let ending := if line.hasEnd then (if style.marksEnds then "$\n" else "\n") else ""
  if isOpen then ((number, 0, !line.hasEnd), style.text line.text ++ ending)
  else if line.text.isEmpty && style.squeezes && 0 < empties then (state, "")
  else
    let empties := if line.text.isEmpty then empties + 1 else 0
    let isNumbered := if style.numbersFilled then !line.text.isEmpty else style.numbers
    let number := if isNumbered then number + 1 else number
    ((number, empties, !line.hasEnd),
      (if isNumbered then lineNumber number else "") ++ style.text line.text ++ ending)

/-- Whether what would be read from a number is where the output goes. -/
def isOwnOutput (number : Nat) : Work Bool := do
  let view ← Work.look
  match view.files.lookup number, view.files.lookup 1 with
  | some input, some output =>
    return input = output &&
      match view.tree.kind input with
      | .file bytes => bytes.size ≠ 0
      | _ => false
  | _, _ => return false

/-- Puts the rest of a file out as it is. -/
def copyOut (invocation : Invocation) (number : Nat) : Work (Option FileFault) :=
  Work.iterate (fun _ => do
    Work.pause
    match ← Work.read number 65536 with
    | .error fault => return .inr (some fault)
    | .ok "" => return .inr none
    | .ok piece => do
      put invocation piece
      return .inl ()) ()

/-- Puts files out one after another, and gives whether all could be read. -/
def copyFiles (invocation : Invocation) : List Octets → Work Bool
  | [] => return true
  | path :: rest => do
    match ← openInput invocation path with
    | .error fault => do
      warn invocation (unreadable path fault)
      let _ ← copyFiles invocation rest
      return false
    | .ok number => do
      if ← isOwnOutput number then do
        warn invocation (shown path ++ ": input file is output file")
        closeInput number
        let _ ← copyFiles invocation rest
        return false
      else do
        let fault ← copyOut invocation number
        closeInput number
        match fault with
        | none => copyFiles invocation rest
        | some fault => do
          warn invocation (unreadable path fault)
          let _ ← copyFiles invocation rest
          return false

def cat : Tool := fun invocation => do
  let parsed ← arguments invocation
    [⟨'A', "show-all", .nothing⟩, ⟨'b', "number-nonblank", .nothing⟩, ⟨'e', "", .nothing⟩,
     ⟨'E', "show-ends", .nothing⟩, ⟨'n', "number", .nothing⟩, ⟨'s', "squeeze-blank", .nothing⟩,
     ⟨'t', "", .nothing⟩, ⟨'T', "show-tabs", .nothing⟩, ⟨'u', "", .nothing⟩,
     ⟨'v', "show-nonprinting", .nothing⟩]
  let any (letters : List Char) : Bool := letters.any parsed.has
  let style : CatStyle :=
    { numbers := any ['n'], numbersFilled := any ['b'], squeezes := any ['s']
      marksEnds := any ['A', 'e', 'E'], marksTabs := any ['A', 't', 'T']
      showsControls := any ['A', 'e', 't', 'v'] }
  let isPlain := parsed.options.all (·.1 = 'u')
  let isDone ←
    if isPlain then copyFiles invocation (orStandard parsed.operands)
    else do
      let (_, isDone) ← overLines invocation parsed.operands style.line (fun _ => false) (0, 0, false)
      pure isDone
  return if isDone then 0 else 1

/-- A text as lines with their ends. -/
def linesWithEnds (content : Octets) : List Octets :=
  match (content.splitOn "\n").reverse with
  | [] => []
  | last :: others => (others.map (· ++ "\n")).reverse ++ if last.isEmpty then [] else [last]

def tac : Tool := fun invocation => do
  let parsed ← arguments invocation [⟨'b', "before", .nothing⟩, ⟨'s', "separator", .needed⟩]
  let (contents, isDone) ← readFiles invocation (orStandard parsed.operands)
  for (_, content) in contents do
    put invocation (String.join (linesWithEnds content).reverse)
  return if isDone then 0 else 1

def rev : Tool := fun invocation => do
  let parsed ← arguments invocation []
  mapLines invocation parsed.operands fun line =>
    String.ofList line.text.toList.reverse ++ if line.hasEnd then "\n" else ""

/-! ## Beginnings and ends -/

/-- How much of a file is shown. -/
inductive Extent
  /-- So many of its parts. -/
  | count (parts : Nat)
  /-- All but so many of its parts. -/
  | allBut (parts : Nat)
  /-- All from the part with a number on. -/
  | since (part : Nat)

/-- Turns an old option that is only a number into a new one. -/
def withNumberOption (words : List Octets) : List Octets :=
  match words with
  | [] => []
  | word :: rest =>
    match word.toList with
    | '-' :: c :: digits =>
      if c.isDigit then
        let (number, letters) := (c :: digits).span Char.isDigit
        let unit := if letters.contains 'c' then "-c" else "-n"
        (unit ++ String.ofList number) :: rest
      else words
    | _ => words

/-- The header over a file of several. -/
def fileHeader (isFirst : Bool) (name : Octets) : Octets :=
  (if isFirst then "" else "\n") ++ "==> " ++ (if name = "-" then "standard input" else name) ++
    " <==\n"

/-- The first parts of a text: lines with their ends, or bytes. -/
def firstParts (byLines : Bool) (count : Nat) (content : Octets) : Octets :=
  if byLines then String.join ((linesWithEnds content).take count)
  else (content.take count).toString

/-- Puts out the first parts of a file, and gives back what was read beyond them. -/
def putFirst (invocation : Invocation) (number : Nat) (byLines : Bool) (count : Nat) :
    Work (Option FileFault) :=
  if count = 0 then return none
  else
    Work.iterate (fun left => do
      match ← Work.read number (if byLines then 8192 else min left 8192) with
      | .error fault => return .inr (some fault)
      | .ok "" => return .inr none
      | .ok piece => do
        let shown := firstParts byLines left piece
        put invocation shown
        let done :=
          if byLines then shown.toList.countP (· = '\n') else shown.length
        if left ≤ done then do
          Work.unread number (piece.length - shown.length)
          return .inr none
        else return .inl (left - done)) count

/-- Does something with each file under a header, and gives whether all could be read. -/
def eachFile (invocation : Invocation) (headers : Bool)
    (action : Nat → Work (Option FileFault)) : (isFirst : Bool) → List Octets → Work Bool
  | _, [] => return true
  | isFirst, path :: rest => do
    let name := if path = "-" then "standard input" else path
    match ← openInput invocation path with
    | .error fault => do
      warn invocation ("cannot open " ++ quote name ++ " for reading: " ++ fault.text)
      let _ ← eachFile invocation headers action isFirst rest
      return false
    | .ok number => do
      if headers then put invocation (fileHeader isFirst path)
      let fault ← action number
      closeInput number
      match fault with
      | none => eachFile invocation headers action false rest
      | some fault => do
        warn invocation ("error reading " ++ quote name ++ ": " ++ fault.text)
        let _ ← eachFile invocation headers action false rest
        return false

/-- How much is asked for by an option. -/
def extentOf (invocation : Invocation) (what : Octets) (plus minus : Nat → Extent)
    (text : Octets) : Work Extent := do
  let (make, digits) :=
    match text.toList with
    | '-' :: digits => (minus, digits)
    | '+' :: digits => (plus, digits)
    | digits => (Extent.count, digits)
  match amountOf? (String.ofList digits) with
  | some amount => return make amount
  | none => fail invocation 1 ("invalid number of " ++ what ++ ": " ++ quote text)

/-- The options of the tools for beginnings and ends, and how much they ask for. -/
def partOptions (invocation : Invocation) (plus minus : Nat → Extent) :
    Work (Parsed × Bool × Extent) := do
  let parsed ← arguments { invocation with arguments := withNumberOption invocation.arguments }
    [⟨'n', "lines", .needed⟩, ⟨'c', "bytes", .needed⟩, ⟨'q', "quiet", .nothing⟩,
     ⟨'q', "silent", .nothing⟩, ⟨'v', "verbose", .nothing⟩, ⟨'z', "zero-terminated", .nothing⟩,
     ⟨'f', "follow", .optional⟩, ⟨'F', "", .nothing⟩, ⟨'s', "sleep-interval", .needed⟩]
  match parsed.lastOf ['n', 'c'] with
  | none => return (parsed, true, .count 10)
  | some letter => do
    let byLines := letter = 'n'
    let extent ← extentOf invocation (if byLines then "lines" else "bytes") plus minus
      ((parsed.value? letter).getD "")
    return (parsed, byLines, extent)

def hasHeaders (parsed : Parsed) : Bool :=
  match parsed.lastOf ['q', 'v'] with
  | some letter => letter = 'v'
  | none => 1 < parsed.operands.length

def head : Tool := fun invocation => do
  let (parsed, byLines, extent) ← partOptions invocation .count .allBut
  let action (number : Nat) : Work (Option FileFault) :=
    match extent with
    | .count count | .since count => putFirst invocation number byLines count
    | .allBut count => do
      match ← Work.readAll number with
      | .error fault => return some fault
      | .ok content => do
        let parts := if byLines then (linesWithEnds content).length else content.length
        put invocation (firstParts byLines (parts - count) content)
        return none
  let isDone ← eachFile invocation (hasHeaders parsed) action true (orStandard parsed.operands)
  return if isDone then 0 else 1

/-- The last parts of a text. -/
def lastParts (byLines : Bool) (extent : Extent) (content : Octets) : Octets :=
  let lines := linesWithEnds content
  let size := if byLines then lines.length else content.length
  let dropped :=
    match extent with
    | .count count | .allBut count => size - count
    | .since part => part - 1
  if byLines then String.join (lines.drop dropped) else (content.drop dropped).toString

/-- Puts out what is added to a file, for ever. -/
def follow (invocation : Invocation) (number : Nat) : Work Nat :=
  Work.iterate (fun _ => do
    let _ ← copyOut invocation number
    Work.sleep (.ofSeconds 1)
    return .inl ()) ()

def tail : Tool := fun invocation => do
  let words := invocation.arguments
  if withNumberOption words ≠ words && 2 < words.length then
    fail invocation 1 ("option used in invalid context -- " ++ ((words.headD "").drop 1).toString)
  let (parsed, byLines, extent) ← partOptions invocation .since .count
  let action (number : Nat) : Work (Option FileFault) := do
    match ← Work.readAll number with
    | .error fault => return some fault
    | .ok content => do
      put invocation (lastParts byLines extent content)
      if parsed.has 'f' || parsed.has 'F' then
        let _ ← follow invocation number
      return none
  let isDone ← eachFile invocation (hasHeaders parsed) action true (orStandard parsed.operands)
  return if isDone then 0 else 1

/-! ## Copies -/

/-- Opens the files that a copy goes to, and gives their numbers. -/
def openOutputs (invocation : Invocation) (opening : Work.Opening) :
    List Octets → Work (List (Octets × Nat) × Bool)
  | [] => return ([], true)
  | path :: rest => do
    match ← Work.openFile invocation.folder path opening (0o666 &&& (0o777 ^^^ invocation.mask)) with
    | .error fault => do
      warn invocation (unreadable path fault)
      return ((← openOutputs invocation opening rest).1, false)
    | .ok stream => do
      let number := Work.freeNumber (← Work.look).descriptors fileNumber
      Work.place number stream
      let (others, isDone) ← openOutputs invocation opening rest
      return ((path, number) :: others, isDone)

def tee : Tool := fun invocation => do
  let parsed ← arguments invocation
    [⟨'a', "append", .nothing⟩, ⟨'i', "ignore-interrupts", .nothing⟩, ⟨'p', "", .nothing⟩]
  let opening : Work.Opening := if parsed.has 'a' then .forAppending else .forWriting
  let (outputs, isDone) ← openOutputs invocation opening parsed.operands
  let all := ("standard output", 1) :: outputs
  Work.iterate (fun isDone => do
    Work.pause
    match ← Work.read 0 65536 with
    | .error _ | .ok "" => return .inr (if isDone then 0 else 1)
    | .ok piece => do
      let faults ← all.mapM fun (name, number) => do
        match ← Work.write number piece with
        | none => return false
        | some fault => do
          warn invocation (shown name ++ ": " ++ fault.text)
          return true
      return .inl (isDone && !faults.any id)) isDone

/-! ## Numbered lines -/

def nl : Tool := fun invocation => do
  let parsed ← arguments invocation
    [⟨'b', "body-numbering", .needed⟩, ⟨'n', "number-format", .needed⟩,
     ⟨'s', "number-separator", .needed⟩, ⟨'v', "starting-line-number", .needed⟩,
     ⟨'w', "number-width", .needed⟩, ⟨'i', "line-increment", .needed⟩,
     ⟨'h', "header-numbering", .needed⟩, ⟨'f', "footer-numbering", .needed⟩,
     ⟨'p', "no-renumber", .nothing⟩, ⟨'d', "section-delimiter", .needed⟩,
     ⟨'l', "join-blank-lines", .needed⟩]
  let number (letter : Char) (standard : Int) : Int :=
    ((parsed.value? letter).bind fun text => integerOf? text.toList).getD standard
  let width := (number 'w' 6).toNat
  let separator := (parsed.value? 's').getD "\t"
  let style := (parsed.value? 'b').getD "t"
  let shape := (parsed.value? 'n').getD "rn"
  let written (value : Int) : Octets :=
    let digits := (integerText value).toList
    String.ofList
      (if shape = "ln" then digits ++ List.replicate (width - digits.length) ' '
      else digits.leftpad width (if shape = "rz" then '0' else ' '))
  let step (value : Int) (line : Line) : Int × Octets :=
    if style = "a" || (style = "t" && !line.text.isEmpty) then
      (value + number 'i' 1, written value ++ separator ++ line.text ++ "\n")
    else
      (value, String.ofList (List.replicate (width + separator.length) ' ') ++ line.text ++ "\n")
  let (_, isDone) ← overLines invocation parsed.operands step (fun _ => false) (number 'v' 1)
  return if isDone then 0 else 1

/-! ## Columns from files -/

/-- The separators of a list, in which a backslash gives letters a meaning. -/
def separatorList (text : Octets) : List Octets :=
  let rec go : List Char → List Octets
    | '\\' :: 'n' :: rest => "\n" :: go rest
    | '\\' :: 't' :: rest => "\t" :: go rest
    | '\\' :: '0' :: rest => "" :: go rest
    | '\\' :: c :: rest => String.singleton c :: go rest
    | c :: rest => String.singleton c :: go rest
    | [] => []
  go text.toList

/-- Joins texts with separators that are used in turn. -/
def joinInTurn (separators : List Octets) : (place : Nat) → List Octets → Octets
  | _, [] => ""
  | _, [text] => text
  | place, text :: rest =>
    let separator := (separators[place % max 1 separators.length]?).getD ""
    text ++ separator ++ joinInTurn separators (place + 1) rest

/-- The contents of files, where a dash stands for what comes in. What comes in is shared out
line by line if it is named several times. -/
def paste : Tool := fun invocation => do
  let parsed ← arguments invocation [⟨'d', "delimiters", .needed⟩, ⟨'s', "serial", .nothing⟩]
  let separators := separatorList ((parsed.value? 'd').getD "\t")
  let paths := orStandard parsed.operands
  let standard ←
    if paths.contains "-" then do pure ((← Work.readAll 0).toOption.getD "") else pure ""
  let dashes := paths.countP (· = "-")
  let standardLines := Octets.lines standard
  let share (place : Nat) : List Octets :=
    (standardLines.zipIdx.filter fun entry => entry.2 % dashes = place).map (·.1)
  let columns ← paths.zipIdx.mapM fun (path, place) => do
    if path = "-" then
      return if parsed.has 's' then standardLines
        else share ((paths.take place).countP (· = "-"))
    else
      match ← readFile invocation path with
      | .ok content => return Octets.lines content
      | .error fault => fail invocation 1 (unreadable path fault)
  if parsed.has 's' then
    put invocation (String.join (columns.map fun lines => joinInTurn separators 0 lines ++ "\n"))
  else do
    let rows := (columns.map List.length).foldl max 0
    let row (index : Nat) : Octets :=
      joinInTurn separators 0 (columns.map fun lines => lines[index]?.getD "") ++ "\n"
    put invocation (String.join ((List.range rows).map row))
  return 0

/-- Compares the lines of two sorted files: those of the first alone, of the second alone, of
both. `fuel` bounds the lines. -/
def compareSorted : (fuel : Nat) → List Octets → List Octets → List (Nat × Octets)
  | 0, _, _ => []
  | _, [], second => second.map (2, ·)
  | _, first, [] => first.map (1, ·)
  | fuel + 1, a :: first, b :: second =>
    if a = b then (3, a) :: compareSorted fuel first second
    else if Octets.isBefore a b then (1, a) :: compareSorted fuel first (b :: second)
    else (2, b) :: compareSorted fuel (a :: first) second

/-- Whether each line comes before the next one or is the same. -/
def isInOrder (lines : List Octets) : Bool :=
  (lines.zip (lines.drop 1)).all fun (line, next) => !Octets.isBefore next line

def comm : Tool := fun invocation => do
  let parsed ← arguments invocation
    [⟨'1', "", .nothing⟩, ⟨'2', "", .nothing⟩, ⟨'3', "", .nothing⟩,
     ⟨'\x10', "check-order", .nothing⟩, ⟨'\x11', "nocheck-order", .nothing⟩]
  match parsed.operands with
  | [] => missingOperand invocation 1
  | [only] => misuse invocation 1 ("missing operand after " ++ quote only)
  | first :: second :: rest => do
    refuseExtra invocation 1 0 rest
    let lines (path : Octets) : Work (List Octets) := do
      match ← readFile invocation path with
      | .ok content => return Octets.lines content
      | .error fault => fail invocation 1 (unreadable path fault)
    let first ← lines first
    let second ← lines second
    let columns := [1, 2, 3].filter fun column => !parsed.has (Nat.digitChar column)
    let shown (entry : Nat × Octets) : Octets :=
      if columns.contains entry.1 then
        String.ofList (List.replicate (columns.countP (· < entry.1)) '\t') ++ entry.2 ++ "\n"
      else ""
    let entries := compareSorted (first.length + second.length + 1) first second
    put invocation (String.join (entries.map shown))
    let isStrict :=
      parsed.has '\x10' || (!parsed.has '\x11' && entries.any fun entry => entry.1 ≠ 3)
    let unsorted := [(first, "1"), (second, "2")].filter fun (lines, _) => !isInOrder lines
    if isStrict && !unsorted.isEmpty then do
      for (_, place) in unsorted do
        warn invocation ("file " ++ place ++ " is not in sorted order")
      if !parsed.has '\x10' then warn invocation "input is not in sorted order"
      return 1
    else return 0

end Overseer.Tool
