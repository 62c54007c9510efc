import Overseer.Pattern.CharSet
import Overseer.Tools.Counting

/-!
# Tools for columns and characters
-/

namespace Overseer.Tool

/-! ## Ranges -/

/-- The places from the first to the last that a part of a list names. -/
structure PlaceRange where
  first : Nat
  last : Option Nat

def PlaceRange.ofText? (text : Octets) : Option PlaceRange :=
  match text.splitOn "-" with
  | [single] => do
    let place ← naturalOf? single.toList
    if place = 0 then none else some ⟨place, some place⟩
  | [first, last] => do
    let start ← if first.isEmpty then some 1 else naturalOf? first.toList
    let stop ← if last.isEmpty then some none else (naturalOf? last.toList).map some
    if start = 0 || (first.isEmpty && last.isEmpty) || stop.any (· < start) then none
    else some ⟨start, stop⟩
  | _ => none

def PlaceRange.has (range : PlaceRange) (place : Nat) : Bool :=
  range.first ≤ place && range.last.all (place ≤ ·)

/-- The ranges of a list. -/
def rangesOf? (text : Octets) : Option (List PlaceRange) :=
  ((text.splitOn ",").flatMap (·.splitOn " ")).mapM PlaceRange.ofText?

/-- What `cut` shows of a line. -/
structure CutStyle where
  byFields : Bool
  ranges : List PlaceRange
  separator : Char
  joiner : Option Octets
  skipsOthers : Bool
  complements : Bool

def CutStyle.has (style : CutStyle) (place : Nat) : Bool :=
  style.ranges.any (·.has place) ≠ style.complements

/-- The characters at the places, with a text between those that do not stand together. -/
def CutStyle.chars (style : CutStyle) : (place : Nat) → (before : Option Bool) → List Char → List Char
  | _, _, [] => []
  | place, before, c :: rest =>
    let startsRange := style.ranges.any fun range => range.first = place
    if style.has place then
      let joins := before = some false || (before = some true && startsRange && !style.complements)
      (if joins then (style.joiner.getD "").toList else []) ++
        c :: style.chars (place + 1) (some true) rest
    else style.chars (place + 1) (before.map fun _ => false) rest

def CutStyle.line (style : CutStyle) (line : Line) : Octets :=
  if style.byFields then
    if !line.text.contains style.separator then
      if style.skipsOthers then "" else line.text ++ "\n"
    else
      let fields := line.text.splitOn (String.singleton style.separator)
      let shown := (fields.zipIdx.filter fun entry => style.has (entry.2 + 1)).map (·.1)
      (style.joiner.getD (String.singleton style.separator)).intercalate shown ++ "\n"
  else String.ofList (style.chars 1 none line.text.toList) ++ "\n"

def cut : Tool := fun invocation => do
  let parsed ← arguments invocation
    [⟨'b', "bytes", .needed⟩, ⟨'c', "characters", .needed⟩, ⟨'f', "fields", .needed⟩,
     ⟨'d', "delimiter", .needed⟩, ⟨'s', "only-delimited", .nothing⟩, ⟨'n', "", .nothing⟩,
     ⟨'\x10', "complement", .nothing⟩, ⟨'\x11', "output-delimiter", .needed⟩,
     ⟨'z', "zero-terminated", .nothing⟩]
  match parsed.options.filter fun entry => ['b', 'c', 'f'].contains entry.1 with
  | [] => misuse invocation 1 "you must specify a list of bytes, characters, or fields"
  | [(letter, text)] => do
    let byFields := letter = 'f'
    let separator := (parsed.value? 'd').getD "\t"
    if 1 < separator.length then misuse invocation 1 "the delimiter must be a single character"
    if !byFields && parsed.has 'd' then
      misuse invocation 1 "an input delimiter may be specified only when operating on fields"
    if !byFields && parsed.has 's' then
      misuse invocation 1
        "suppressing non-delimited lines makes sense\n\tonly when operating on fields"
    match rangesOf? text with
    | none =>
      let what := if byFields then "field" else "byte/character position"
      misuse invocation 1 ("invalid " ++ what ++ " value " ++ quote text)
    | some ranges =>
      let style : CutStyle :=
        { byFields, ranges, separator := (separator.toList).headD '\x00'
          joiner := parsed.value? '\x11', skipsOthers := parsed.has 's'
          complements := parsed.has '\x10' }
      mapLines invocation parsed.operands style.line
  | _ => misuse invocation 1 "only one list may be specified"

/-! ## Sets of characters -/

/-- The characters of a class, in order. -/
def classMembers? (name : Octets) : Option (List Char) :=
  (CharSet.classRanges? name.toList).map fun ranges =>
    ((List.range 256).map Char.ofNat).filter (CharSet.mk ranges false).contains

/-- A part of a set. -/
inductive SetPart
  | chars (chars : List Char)
  /-- A character so many times; as often as needed for zero. -/
  | repeated (c : Char) (count : Nat)
  | classNamed (name : Octets) (members : List Char)

/-- The escapes in a set. -/
def setEscapes : EscapeStyle := { letters := EscapeStyle.controlLetters, octal := true }

/-- A character of a set, which may be escaped, and the rest. -/
def setChar : List Char → Option (Char × List Char)
  | [] => none
  | '\\' :: rest =>
    match setEscapes.read? rest, rest with
    | some found, _ => some found
    | none, c :: rest => some (c, rest)
    | none, [] => some ('\\', [])
  | c :: rest => some (c, rest)

/-- The part of a set in brackets, without the first of these. -/
def bracketPart? (text : List Char) : Option (SetPart × List Char) :=
  match text with
  | ':' :: rest => do
    let (name, rest) := rest.span (· ≠ ':')
    match rest with
    | ':' :: ']' :: rest => do
      let name := String.ofList name
      return (.classNamed name (← classMembers? name), rest)
    | _ => none
  | '=' :: c :: '=' :: ']' :: rest => some (.chars [c], rest)
  | _ => do
    let (c, rest) ← setChar text
    match rest with
    | '*' :: rest =>
      let (digits, rest) := rest.span Char.isDigit
      match rest with
      | ']' :: rest =>
        let base := if digits.head? = some '0' then 8 else 10
        some (.repeated c (valueOfDigits base digits), rest)
      | _ => none
    | _ => none

/-- The parts of a set; `fuel` bounds the text. -/
def setParts : (fuel : Nat) → List Char → Except Octets (List SetPart)
  | 0, _ => .ok []
  | _, [] => .ok []
  | fuel + 1, text => do
    let bracket :=
      match text with
      | '[' :: rest => bracketPart? rest
      | _ => none
    match bracket with
    | some (part, rest) => return part :: (← setParts fuel rest)
    | none =>
      match setChar text with
      | none => return []
      | some (first, '-' :: rest) =>
        match setChar rest with
        | none => return [.chars [first, '-']]
        | some (last, rest) =>
          if last < first then
            .error ("range-endpoints of " ++ Tool.quote (String.ofList [first, '-', last]) ++
              " are in reverse collating sequence order")
          else
            let members := (List.range (last.toNat - first.toNat + 1)).map fun place =>
              Char.ofNat (first.toNat + place)
            return .chars members :: (← setParts fuel rest)
      | some (c, rest) => return .chars [c] :: (← setParts fuel rest)

/-- The characters of a set that is to be as long as another one. -/
def setMembers (length : Nat) (parts : List SetPart) : List Char :=
  let fixed := (parts.map fun
    | .chars chars | .classNamed _ chars => chars.length
    | .repeated _ count => count).foldl (· + ·) 0
  parts.flatMap fun
    | .chars chars | .classNamed _ chars => chars
    | .repeated c count => List.replicate (if count = 0 then length - fixed else count) c

/-- Goes on after a character was shown: one that repeats it may be left out. -/
def squeezeChar (isSqueezed : Char → Bool) (last : Option Char) (text : List Char) :
    List Char × Option Char :=
  let (read, last) := text.foldl (fun (read, last) c =>
    if last = some c && isSqueezed c then (read, last) else (c :: read, some c))
    (([] : List Char), last)
  (read.reverse, last)

/-- The characters that a set is replaced by, brought to its length by repeating the last,
or cut. -/
def replacements (cuts : Bool) (first second : List Char) : List (Char × Char) :=
  let padded :=
    if cuts then second
    else second ++ List.replicate (first.length - second.length) (second.getLastD '\x00')
  (first.zip padded).reverse

/-- Feeds what comes in to a change, piece by piece. -/
def overPieces (invocation : Invocation) (change : σ → List Char → List Char × σ) (start : σ) :
    Work Nat :=
  Work.iterate (fun state => do
    Work.pause
    match ← Work.read 0 65536 with
    | .error fault => fail invocation 1 ("read error: " ++ fault.text)
    | .ok "" => return .inr 0
    | .ok piece => do
      let (shown, state) := change state piece.toList
      put invocation (String.ofList shown)
      return .inl state) start

def tr : Tool := fun invocation => do
  let parsed ← parse invocation
    [⟨'c', "complement", .nothing⟩, ⟨'C', "", .nothing⟩, ⟨'d', "delete", .nothing⟩,
     ⟨'s', "squeeze-repeats", .nothing⟩, ⟨'t', "truncate-set1", .nothing⟩] 1 true
  let deletes := parsed.has 'd'
  let squeezes := parsed.has 's'
  let parts (text : Octets) : Work (List SetPart) := do
    match setParts (text.length + 1) text.toList with
    | .ok parts => return parts
    | .error message => fail invocation 1 message
  let given := parsed.operands
  let least := if deletes ≠ squeezes then 1 else 2
  let most := if deletes && !squeezes then 1 else 2
  match given with
  | [] => missingOperand invocation 1
  | first :: rest => do
    if given.length < least then
      misuse invocation 1 ("missing operand after " ++ quote first)
    refuseExtra invocation 1 most given
    let firstParts ← parts first
    let members := setMembers 0 firstParts
    let isComplement := parsed.has 'c' || parsed.has 'C'
    let firstSet :=
      if isComplement then
        ((List.range 256).map Char.ofNat).filter fun c => !members.contains c
      else members
    let secondParts ← parts (rest.headD "")
    let second := setMembers firstSet.length secondParts
    let isIn (set : List Char) (c : Char) : Bool := set.contains c
    if deletes then
      overPieces invocation (fun last text =>
        squeezeChar (fun c => squeezes && isIn second c) last
          (text.filter fun c => !isIn firstSet c)) none
    else if rest.isEmpty then
      overPieces invocation (fun last text => squeezeChar (isIn firstSet) last text) none
    else do
      if second.isEmpty then
        fail invocation 1 "when not truncating set1, string2 must be non-empty"
      let table := replacements (parsed.has 't') firstSet second
      overPieces invocation (fun last text =>
        squeezeChar (fun c => squeezes && isIn second c) last
          (text.map fun c => (table.lookup c).getD c)) none

/-! ## Widths -/

/-- Cuts a line into parts of at most a width, after a blank where there is one. -/
def foldLine (width : Nat) (atBlanks : Bool) : (fuel : Nat) → List Char → List (List Char)
  | 0, text => [text]
  | fuel + 1, text =>
    if text.length ≤ width || width = 0 then [text]
    else
      let first := text.take width
      let cutAt :=
        if atBlanks then
          let kept := (first.reverse.dropWhile fun c => c ≠ ' ' && c ≠ '\t').length
          if kept = 0 then width else kept
        else width
      text.take cutAt :: foldLine width atBlanks fuel (text.drop cutAt)

def fold : Tool := fun invocation => do
  let words := invocation.arguments.map fun word =>
    match word.toList with
    | '-' :: c :: digits =>
      if (c :: digits).all Char.isDigit then "-w" ++ (word.drop 1).toString else word
    | _ => word
  let parsed ← arguments { invocation with arguments := words }
    [⟨'b', "bytes", .nothing⟩, ⟨'s', "spaces", .nothing⟩, ⟨'w', "width", .needed⟩]
  let width ←
    match parsed.value? 'w' with
    | none => pure 80
    | some text =>
      match naturalOf? text.toList with
      | some width =>
        if width = 0 then fail invocation 1 ("invalid number of columns: " ++ quote text)
        else pure width
      | none => fail invocation 1 ("invalid number of columns: " ++ quote text)
  mapLines invocation parsed.operands fun line =>
    let parts := foldLine width (parsed.has 's') line.text.length line.text.toList
    "\n".intercalate (parts.map String.ofList) ++ if line.hasEnd then "\n" else ""

/-- The column that a tab leads to. -/
def nextStop (stops : List Nat) (column : Nat) : Nat :=
  match stops with
  | [] => column / 8 * 8 + 8
  | [every] => if every = 0 then column + 1 else column / every * every + every
  | _ => (stops.find? (column < ·)).getD (column + 1)

def stopsOf (text : Octets) : List Nat :=
  ((text.splitOn ",").flatMap (·.splitOn " ")).filterMap fun part => naturalOf? part.toList

/-- Replaces the tabs of a line by blanks; the line is at a column. -/
def expandLine (stops : List Nat) (onlyFirst : Bool) : (column : Nat) → List Char → List Char
  | _, [] => []
  | column, '\t' :: rest =>
    let next := nextStop stops column
    List.replicate (next - column) ' ' ++ expandLine stops onlyFirst next rest
  | column, c :: rest =>
    if onlyFirst && c ≠ ' ' then c :: rest
    else c :: expandLine stops onlyFirst (column + 1) rest

def expand : Tool := fun invocation => do
  let parsed ← arguments invocation [⟨'t', "tabs", .needed⟩, ⟨'i', "initial", .nothing⟩]
  let stops := ((parsed.value? 't').map stopsOf).getD []
  mapLines invocation parsed.operands fun line =>
    String.ofList (expandLine stops (parsed.has 'i') 0 line.text.toList) ++
      if line.hasEnd then "\n" else ""

/-- Replaces blanks that lead to a tab stop by tabs; `held` counts blanks that were read. -/
def unexpandLine (stops : List Nat) (all : Bool) : (column held : Nat) → List Char → List Char
  | _, held, [] => List.replicate held ' '
  | column, held, ' ' :: rest =>
    if nextStop stops (column - held) = column + 1 && 0 < held then
      '\t' :: unexpandLine stops all (column + 1) 0 rest
    else unexpandLine stops all (column + 1) (held + 1) rest
  | column, _, '\t' :: rest => '\t' :: unexpandLine stops all (nextStop stops column) 0 rest
  | column, held, c :: rest =>
    List.replicate held ' ' ++
      if all then c :: unexpandLine stops all (column + 1) 0 rest else c :: rest

def unexpand : Tool := fun invocation => do
  let parsed ← arguments invocation
    [⟨'a', "all", .nothing⟩, ⟨'t', "tabs", .needed⟩, ⟨'\x10', "first-only", .nothing⟩]
  let stops := ((parsed.value? 't').map stopsOf).getD []
  let all := (parsed.has 'a' || parsed.has 't') && !parsed.has '\x10'
  mapLines invocation parsed.operands fun line =>
    String.ofList (unexpandLine stops all 0 0 line.text.toList) ++
      if line.hasEnd then "\n" else ""

end Overseer.Tool
