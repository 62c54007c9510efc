import Overseer.Pattern.Glob
import Overseer.Pattern.RegexReader
import Overseer.Tools.Folders

/-!
# Searching

`grep` looks for lines that match a pattern. Which lines are selected is up to a `Search`;
what is shown of them is up to its style.
-/

namespace Overseer.Tool

/-! ## Selecting -/

/-- What is looked for in a line. -/
structure Search where
  regex : Regex
  /-- Whether a match is to be the whole line, or to end at edges of words. -/
  wholeLine : Bool := false
  wholeWord : Bool := false
  /-- Whether the lines without a match are selected. -/
  inverted : Bool := false

namespace Search

def fits (search : Search) (text : Array Char) (first last : Nat) : Bool :=
  if search.wholeLine then first = 0 && last = text.size
  else !search.wholeWord ||
    (!(0 < first && Regex.isWordAt text (first - 1)) && !Regex.isWordAt text last)

/-- The first match from a position on. -/
def find? (search : Search) (text : Array Char) (position : Nat) : Option (Nat × Nat) :=
  ((List.range (text.size + 1 - position)).map (· + position)).findSome? fun first =>
    ((search.regex.lasts text first).find? (search.fits text first)).map (first, ·)

def selects (search : Search) (text : Array Char) : Bool :=
  let isFound :=
    if search.wholeLine || search.wholeWord then (search.find? text 0).isSome
    else search.regex.isIn text
  isFound != search.inverted

/-- The matches in a line that are not empty. -/
def parts (search : Search) (text : Array Char) : List (Nat × Nat) :=
  go (text.size + 1) 0
where
  go : (fuel : Nat) → Nat → List (Nat × Nat)
    | 0, _ => []
    | fuel + 1, position =>
      match search.find? text position with
      | none => []
      | some (first, last) =>
        if first = last then go fuel (first + 1) else (first, last) :: go fuel last

end Search

/-! ## Showing -/

/-- What is shown of a file. -/
inductive Answer
  | selected
  | count
  /-- The name of the file, if some line is selected or if none is. -/
  | name (ifSelected : Bool)
  | nothing
  deriving DecidableEq

/-- How the lines of a search are shown. -/
structure SearchStyle where
  answer : Answer
  onlyParts : Bool
  withNumbers : Bool
  withOffsets : Bool
  withNames : Bool
  isText : Bool
  /-- The number of lines shown before and after a selected one. -/
  before : Nat
  after : Nat
  /-- The number of selected lines after which a file is left. -/
  most : Option Nat
  isSilent : Bool

/-- How far the search in a file has come. -/
structure SearchState where
  number : Nat := 0
  offset : Nat := 0
  found : Nat := 0
  /-- The lines that may be shown before the next selected one, latest first. -/
  before : List (Octets × Nat × Nat) := []
  /-- The number of lines that are still shown. -/
  after : Nat := 0
  /-- The number of the last line shown. -/
  lastShown : Nat := 0
  /-- Whether a line was shown, of this file or one before. -/
  hasShown : Bool := false
  /-- Whether there is no text to be shown. -/
  isBinary : Bool := false

namespace SearchStyle

/-- The name of a file as a search shows it. -/
def fileName (path : Octets) : Octets := if path = "-" then "(standard input)" else path

/-- A line with what is shown before it. -/
def line (style : SearchStyle) (name : Octets) (separator : Octets) (number offset : Nat)
    (text : Octets) : Octets :=
  (if style.withNames then name ++ separator else "") ++
    (if style.withNumbers then Nat.repr number ++ separator else "") ++
    (if style.withOffsets then Nat.repr offset ++ separator else "") ++ text ++ "\n"

/-- What is shown of a selected line. -/
def selectedLine (style : SearchStyle) (search : Search) (name : Octets) (number offset : Nat)
    (text : Octets) : Octets :=
  if style.onlyParts then
    if search.inverted then ""
    else
      let chars := text.toList.toArray
      String.join ((search.parts chars).map fun (first, last) =>
        style.line name ":" number (offset + first)
          (String.ofList (chars.extract first last).toList))
  else style.line name ":" number offset text

def isDone (style : SearchStyle) (state : SearchState) : Bool :=
  match style.answer with
  | .nothing | .name _ => 0 < state.found
  | .count => style.most.any (· ≤ state.found)
  | .selected => state.isBinary || (style.most.any (· ≤ state.found) && state.after = 0)

/-- Takes a line of a file. -/
def step (style : SearchStyle) (search : Search) (name : Octets) (state : SearchState)
    (line : Line) : SearchState × Octets :=
  let number := state.number + 1
  let next := { state with number, offset := state.offset + line.text.length + 1 }
  let isSelected := search.selects line.text.toList.toArray
  let isFull := style.most.any (· ≤ state.found)
  if isSelected && isFull then ({ next with after := 0 }, "")
  else if isSelected then
    let next := { next with found := state.found + 1 }
    if style.answer ≠ .selected then (next, "")
    else if line.hasZero && !style.isText then ({ next with isBinary := true }, "")
    else
      let before := (state.before.take style.before).reverse
      let firstShown := number - before.length
      let hasContext := 0 < style.before + style.after
      let gap := if hasContext && state.hasShown && state.lastShown + 1 < firstShown then "--\n" else ""
      let earlier :=
        if style.onlyParts then []
        else before.map fun (text, number, offset) => style.line name "-" number offset text
      ({ next with before := [], after := style.after, lastShown := number, hasShown := true },
        gap ++ String.join earlier ++
          style.selectedLine search name number state.offset line.text)
  else if 0 < state.after && style.answer = .selected then
    ({ next with after := state.after - 1, lastShown := number },
      if style.onlyParts then "" else style.line name "-" number state.offset line.text)
  else
    ({ next with before := ((line.text, number, state.offset) :: state.before).take style.before },
      "")

end SearchStyle

/-- Searches a file. Gives how far it came, and whether the file could be read. -/
def searchFile (invocation : Invocation) (search : Search) (style : SearchStyle) (hasShown : Bool)
    (path : Octets) : Work (SearchState × Bool) := do
  let name := SearchStyle.fileName path
  let report (path : Octets) (fault : FileFault) : Option Octets :=
    if style.isSilent then none else some (SearchStyle.fileName path ++ ": " ++ fault.text)
  let (state, reader) ←
    overReader invocation { files := [path], report } (style.step search name) style.isDone
      { hasShown }
  if style.most.isSome then reader.giveBack
  match style.answer with
  | .count => put invocation ((if style.withNames then name ++ ":" else "") ++ Nat.repr state.found ++ "\n")
  | .name ifSelected =>
    if (ifSelected == (0 < state.found : Bool)) && !reader.failed then put invocation (name ++ "\n")
  | .selected => if state.isBinary then warn invocation (name ++ ": binary file matches")
  | .nothing => pure ()
  return (state, !reader.failed)

/-- Searches files one after another, until it is clear that nothing more is shown. Gives
whether a line was selected, and whether all files could be read. -/
def searchFiles (invocation : Invocation) (search : Search) (style : SearchStyle) :
    (hasFound hasShown : Bool) → List Octets → Work (Bool × Bool)
  | hasFound, _, [] => return (hasFound, true)
  | hasFound, hasShown, path :: rest => do
    let (state, isRead) ← searchFile invocation search style hasShown path
    let hasFound := hasFound || 0 < state.found
    if hasFound && style.answer = .nothing then return (true, true)
    else
      let (hasFound, areRead) ←
        searchFiles invocation search style hasFound (hasShown || state.hasShown) rest
      return (hasFound, isRead && areRead)

/-! ## Arguments -/

/-- The files in a folder and those below it; `depth` bounds the levels. -/
def filesBelow (tree : FileTree) (isMeant : Octets → Bool) : (depth : Nat) → Octets → Nat →
    List Octets
  | 0, _, _ => []
  | depth + 1, path, folder =>
    (tree.entries folder).flatMap fun (name, node) =>
      let inner := if path.isEmpty then name else joinPath path name
      match tree.kind node with
      | .folder .. => filesBelow tree isMeant depth inner node
      | .file _ => if isMeant name then [inner] else []
      | _ => []

/-- Turns options that are only a number into ones for the lines around. -/
def withContextOption (word : Octets) : Octets :=
  match word.toList with
  | '-' :: c :: digits =>
    if (c :: digits).all Char.isDigit then "-C" ++ String.ofList (c :: digits) else word
  | _ => word

/-- The expression for patterns, any of which is to match. -/
def expressionOf? (plain : Bool) (dialect : Regex.Dialect) (patterns : List Octets) :
    Option Regex := do
  let read (pattern : Octets) : Option Regex :=
    if plain then some (.ofPlain dialect.ignoresCase pattern.toList)
    else Regex.read? dialect pattern.toList
  match ← patterns.mapM read with
  | [] => return .one ⟨[], false⟩
  | first :: rest => return rest.foldl .choice first

def searchRules : List OptionRule :=
  [⟨'E', "extended-regexp", .nothing⟩, ⟨'F', "fixed-strings", .nothing⟩,
   ⟨'G', "basic-regexp", .nothing⟩, ⟨'P', "perl-regexp", .nothing⟩, ⟨'e', "regexp", .needed⟩,
   ⟨'f', "file", .needed⟩, ⟨'i', "ignore-case", .nothing⟩, ⟨'y', "", .nothing⟩,
   ⟨'v', "invert-match", .nothing⟩, ⟨'w', "word-regexp", .nothing⟩,
   ⟨'x', "line-regexp", .nothing⟩, ⟨'c', "count", .nothing⟩,
   ⟨'l', "files-with-matches", .nothing⟩, ⟨'L', "files-without-match", .nothing⟩,
   ⟨'q', "quiet", .nothing⟩, ⟨'q', "silent", .nothing⟩, ⟨'s', "no-messages", .nothing⟩,
   ⟨'n', "line-number", .nothing⟩, ⟨'b', "byte-offset", .nothing⟩,
   ⟨'H', "with-filename", .nothing⟩, ⟨'h', "no-filename", .nothing⟩,
   ⟨'o', "only-matching", .nothing⟩, ⟨'m', "max-count", .needed⟩, ⟨'r', "recursive", .nothing⟩,
   ⟨'R', "dereference-recursive", .nothing⟩, ⟨'a', "text", .nothing⟩,
   ⟨'A', "after-context", .needed⟩, ⟨'B', "before-context", .needed⟩,
   ⟨'C', "context", .needed⟩, ⟨'\x10', "color", .optional⟩, ⟨'\x10', "colour", .optional⟩,
   ⟨'\x11', "line-buffered", .nothing⟩, ⟨'\x12', "include", .needed⟩,
   ⟨'\x13', "exclude", .needed⟩, ⟨'I', "", .nothing⟩, ⟨'U', "binary", .nothing⟩,
   ⟨'T', "initial-tab", .nothing⟩, ⟨'\x14', "binary-files", .needed⟩, ⟨'d', "directories", .needed⟩]

/-- The patterns that the arguments of a search give, and the files. -/
def searchOperands (invocation : Invocation) (parsed : Parsed) : Work (List Octets × List Octets) := do
  let given := (parsed.values 'e').flatMap (·.splitOn "\n")
  let (contents, isDone) ← readFiles invocation (parsed.values 'f')
  if !isDone then Work.exit 2
  let listed := contents.flatMap fun (_, content) => Octets.lines content
  if parsed.has 'e' || parsed.has 'f' then return (given ++ listed, parsed.operands)
  else
    match parsed.operands with
    | pattern :: files => return (pattern.splitOn "\n", files)
    | [] => do
      let _ ← Work.write 2 ("Usage: " ++ invocation.name ++ " [OPTION]... PATTERNS [FILE]...\n" ++
        "Try '" ++ invocation.name ++ " --help' for more information.\n")
      Work.exit 2

/-- Searches files for lines that match patterns, which are written in one way or another. -/
def searching (letter : Char) : Tool := fun invocation => do
  let words := invocation.arguments.map withContextOption
  let parsed ← parse { invocation with arguments := words } searchRules 2 false
  let number (letter : Char) (fault : Octets → Octets) : Work (Option Nat) := do
    match parsed.value? letter with
    | none => return none
    | some text =>
      match integerOf? text.toList with
      | some (.ofNat number) => return some number
      | some _ => if letter = 'm' then return none else fail invocation 2 (fault text)
      | none => fail invocation 2 (fault text)
  let badContext (text : Octets) : Octets := text ++ ": invalid context length argument"
  let around := (← number 'C' badContext).getD 0
  let before := (← number 'B' badContext).getD around
  let after := (← number 'A' badContext).getD around
  let most ← number 'm' fun _ => "invalid max count"
  let (patterns, files) ← searchOperands invocation parsed
  let kind := (parsed.lastOf ['E', 'F', 'G', 'P']).getD letter
  let extended := kind = 'E' || kind = 'P'
  let dialect : Regex.Dialect :=
    { extended, ignoresCase := parsed.has 'i' || parsed.has 'y', allowsLoose := extended
      namesDigits := kind = 'P', namesControls := kind = 'P' }
  match expressionOf? (kind = 'F') dialect patterns with
  | none => fail invocation 2 "Invalid regular expression"
  | some regex => do
    let search : Search :=
      { regex, wholeLine := parsed.has 'x', wholeWord := parsed.has 'w'
        inverted := parsed.has 'v' }
    let tree ← Work.tree
    let recurses := parsed.has 'r' || parsed.has 'R'
    let isFolder (path : Octets) : Bool :=
      (tree.find invocation.folder path true).toOption.any tree.isFolder
    let covers (letter : Char) (name : Octets) : Bool :=
      (parsed.values letter).any fun pattern =>
        Glob.covers (Glob.ofChars (pattern.toList.map (·, false))) name.toList
    let isMeant (name : Octets) : Bool :=
      (!parsed.has '\x12' || covers '\x12' name) && !covers '\x13' name
    let starts := if files.isEmpty && recurses then [""] else orStandard files
    let paths := starts.flatMap fun path =>
      match tree.find invocation.folder (if path.isEmpty then "." else path) true with
      | .ok node => if recurses && tree.isFolder node then filesBelow tree isMeant 100 path node else [path]
      | .error _ => [path]
    let answer : Answer :=
      if parsed.has 'q' then .nothing
      else
        match parsed.lastOf ['l', 'L'] with
        | some letter => .name (letter = 'l')
        | none => if parsed.has 'c' then .count else .selected
    let withNames :=
      match parsed.lastOf ['H', 'h'] with
      | some letter => letter = 'H'
      | none => 1 < files.length || (recurses && (files.isEmpty || files.any isFolder))
    let style : SearchStyle :=
      { answer, onlyParts := parsed.has 'o', withNumbers := parsed.has 'n', withOffsets := parsed.has 'b'
        withNames, isText := parsed.has 'a', before, after, most, isSilent := parsed.has 's' }
    if most = some 0 then return 1
    else
      let (hasFound, areRead) ← searchFiles invocation search style false false paths
      return if hasFound && (areRead || answer = .nothing) then 0 else if areRead then 1 else 2

def grep : Tool := searching 'G'

def egrep : Tool := searching 'E'

def fgrep : Tool := searching 'F'

end Overseer.Tool
