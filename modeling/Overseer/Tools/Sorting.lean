import Overseer.Number.Leading
import Overseer.Text.Versions
import Overseer.Tools.Joining

/-!
# Sorting

`sort` puts lines in order. A key is a part of a line, with a way to compare it; lines whose
keys are alike are compared as a whole in the end.
-/

namespace Overseer.Tool

/-! ## Keys -/

/-- The ways to compare keys. -/
inductive SortKind
  | bytes
  | number
  | float
  /-- Numbers with a unit. -/
  | size
  | month
  | version
  deriving DecidableEq

/-- What is done with keys before they are compared, and how that is done. -/
structure SortOrder where
  kind : SortKind := .bytes
  reverses : Bool := false
  ignoresCase : Bool := false
  /-- Whether only letters, digits and blanks count, or only what can be printed. -/
  onlyWords : Bool := false
  onlyPrinted : Bool := false
  skipsBlanks : Bool := false
  skipsBlanksAtEnd : Bool := false
  deriving DecidableEq

/-- A key: the number of fields and then characters before its start and before its end. The
end may be that of a field, or that of the line. -/
structure SortKey where
  fields : Nat := 0
  chars : Nat := 0
  endFields : Option Nat := none
  endChars : Nat := 0
  order : SortOrder := {}

/-- What a key comes to, ready to be compared. -/
inductive SortValue
  | text (chars : Octets)
  | scaled (unit : Int) (value : Int) (places : Nat)
  | ranked (rank : Nat) (value : Float)
  | version (name : Octets)

def isBlankOrEnd (c : Char) : Bool := c = ' ' || c = '\t' || c = '\n'

namespace SortKey

/-- Skips fields, which are ended by a separator or are runs that follow blanks. The last
separator belongs to the field before it if that is said. -/
def skipFields (separator : Option Char) (keepsLast : Bool) : Nat → List Char → List Char
  | 0, text => text
  | count + 1, text =>
    match separator with
    | some c =>
      let rest := text.dropWhile (· ≠ c)
      skipFields separator keepsLast count
        (if keepsLast && count = 0 then rest else rest.drop 1)
    | none =>
      skipFields separator keepsLast count
        ((text.dropWhile isBlankOrEnd).dropWhile fun c => !isBlankOrEnd c)

/-- The part of a line that a key takes. -/
def part (key : SortKey) (separator : Option Char) (line : List Char) : List Char :=
  let start := skipFields separator false key.fields line
  let start := if key.order.skipsBlanks then start.dropWhile isBlankOrEnd else start
  let start := start.drop key.chars
  let rest :=
    match key.endFields with
    | none => []
    | some fields =>
      if key.endChars = 0 then skipFields separator true (fields + 1) line
      else
        let rest := skipFields separator false fields line
        let rest := if key.order.skipsBlanksAtEnd then rest.dropWhile isBlankOrEnd else rest
        rest.drop key.endChars
  start.take (start.length - rest.length)

end SortKey

/-! ## Comparing -/

/-- The number that a text begins with: its digits and the number of places. -/
def sortNumber (text : List Char) : Int × Nat × List Char :=
  let text := text.dropWhile isBlankOrEnd
  let (isNegative, digits) :=
    match text with
    | '-' :: digits => (true, digits)
    | digits => (false, digits)
  match leadingDigits? 10 digits with
  | some (value, places, rest) => (if isNegative then -(value : Int) else value, places, rest)
  | none => (0, 0, digits)

def monthLetters : List String :=
  ["JAN", "FEB", "MAR", "APR", "MAY", "JUN", "JUL", "AUG", "SEP", "OCT", "NOV", "DEC"]

namespace SortOrder

/-- What the part of a line comes to. -/
def value (order : SortOrder) (part : List Char) : SortValue :=
  match order.kind with
  | .bytes =>
    let kept :=
      if order.onlyWords then part.filter fun c => c.isAlphanum || isBlankOrEnd c
      else if order.onlyPrinted then part.filter fun c => ' ' ≤ c && c ≤ '~'
      else part
    .text (String.ofList (if order.ignoresCase then kept.map Char.toUpper else kept))
  | .number =>
    let (value, places, _) := sortNumber part
    .scaled 0 value places
  | .size =>
    let (value, places, rest) := sortNumber part
    let units := ['K', 'M', 'G', 'T', 'P', 'E', 'Z', 'Y', 'R', 'Q']
    let unit : Nat :=
      match rest with
      | 'k' :: _ => 1
      | c :: _ => ((units.findIdx? (· = c)).map (· + 1)).getD 0
      | [] => 0
    .scaled (if value = 0 then 0 else if value < 0 then -(unit : Int) else unit) value places
  | .float =>
    match leadingFloat? true part with
    | none => .ranked 0 0
    | some (value, _) => if value.isNaN then .ranked 1 0 else .ranked 2 value
  | .month =>
    let letters := String.ofList (((part.dropWhile isBlankOrEnd).take 3).map Char.toUpper)
    .ranked (((monthLetters.findIdx? (· = letters)).map (· + 1)).getD 0) 0
  | .version => .version (String.ofList part)

end SortOrder

def compareFloats (first second : Float) : Ordering :=
  if first < second then .lt else if second < first then .gt else .eq

def SortValue.compare : SortValue → SortValue → Ordering
  | .text first, .text second => Ord.compare first second
  | .scaled unit value places, .scaled unit' value' places' =>
    (Ord.compare unit unit').then
      (Ord.compare (value * (powerOfTen places' : Int)) (value' * (powerOfTen places : Int)))
  | .ranked rank value, .ranked rank' value' =>
    (Ord.compare rank rank').then (compareFloats value value')
  | .version first, .version second => Versions.compareNames first second
  | _, _ => .eq

/-- How lines are sorted. -/
structure Sorter where
  keys : List SortKey
  separator : Option Char
  /-- Whether lines with keys that are alike count as alike. -/
  stops : Bool
  reverses : Bool

/-- A line with what its keys come to. -/
structure SortLine where
  values : List SortValue
  text : Octets

namespace Sorter

def line (sorter : Sorter) (text : Octets) : SortLine :=
  let chars := text.toList
  ⟨sorter.keys.map fun key => key.order.value (key.part sorter.separator chars), text⟩

def compare (sorter : Sorter) (first second : SortLine) : Ordering :=
  let orders := (sorter.keys.zip (first.values.zip second.values)).map fun (key, values) =>
    let order := values.1.compare values.2
    if key.order.reverses then order.swap else order
  match orders.find? (· ≠ .eq) with
  | some order => order
  | none =>
    if sorter.stops && !sorter.keys.isEmpty then .eq
    else
      let order := Ord.compare first.text second.text
      if sorter.reverses then order.swap else order

/-- The first lines of those that are alike and stand together. -/
def withoutRepeats (sorter : Sorter) : List SortLine → List SortLine
  | [] => []
  | first :: rest =>
    first :: (rest.foldl (fun (kept : List SortLine × SortLine) line =>
      if sorter.compare kept.2 line = .eq then kept else (line :: kept.1, line)) ([], first)).1.reverse

/-- Puts two sorted rows of lines together. `fuel` bounds the lines. -/
def merge (sorter : Sorter) : (fuel : Nat) → List SortLine → List SortLine → List SortLine
  | 0, first, second => first ++ second
  | _, [], second => second
  | _, first, [] => first
  | fuel + 1, a :: first, b :: second =>
    if sorter.compare a b = .gt then b :: merge sorter fuel (a :: first) second
    else a :: merge sorter fuel first (b :: second)

/-- The first line that does not come after the one before it, with its number. -/
def disorder? (sorter : Sorter) (isStrict : Bool) (lines : List SortLine) : Option (Nat × Octets) :=
  (((lines.zip (lines.drop 1)).zipIdx 2).find? fun ((line, next), _) =>
    let order := sorter.compare line next
    order = .gt || (isStrict && order = .eq)).map fun ((_, next), place) => (place, next.text)

end Sorter

/-! ## Arguments -/

/-- Adds what a letter asks for to an order; `atEnd` says that it stands at the end of a key. -/
def SortOrder.add? (order : SortOrder) (atStart atEnd : Bool) (letter : Char) : Option SortOrder :=
  match letter with
  | 'b' =>
    some { order with
      skipsBlanks := order.skipsBlanks || atStart
      skipsBlanksAtEnd := order.skipsBlanksAtEnd || atEnd }
  | 'd' => some { order with onlyWords := true }
  | 'f' => some { order with ignoresCase := true }
  | 'g' => some { order with kind := .float }
  | 'h' => some { order with kind := .size }
  | 'i' => some { order with onlyPrinted := true }
  | 'M' => some { order with kind := .month }
  | 'n' => some { order with kind := .number }
  | 'r' => some { order with reverses := true }
  | 'R' => some order
  | 'V' => some { order with kind := .version }
  | _ => none

/-- Reads a position of a key: a field, and a character after a point. -/
def keyPosition? (text : List Char) : Option (Nat × Option Nat × List Char) := do
  let (digits, rest) := text.span Char.isDigit
  let field ← naturalOf? digits
  match rest with
  | '.' :: rest =>
    let (digits, rest) := rest.span Char.isDigit
    return (field, some (← naturalOf? digits), rest)
  | _ => return (field, none, rest)

/-- Reads a key. -/
def SortKey.ofText? (text : Octets) : Option SortKey := do
  let (start, letters) := text.toList.span (· ≠ ',')
  let (field, char, orders) ← keyPosition? start
  if field = 0 || char = some 0 then none
  else
    let order ← orders.foldlM (fun (order : SortOrder) letter => order.add? true false letter) {}
    match letters with
    | [] => return { fields := field - 1, chars := char.getD 1 - 1, order }
    | _ :: rest =>
      let (endField, endChar, orders) ← keyPosition? rest
      if endField = 0 then none
      else
        let order ← orders.foldlM (fun (order : SortOrder) letter => order.add? false true letter) order
        return { fields := field - 1, chars := char.getD 1 - 1, endFields := some (endField - 1),
                 endChars := endChar.getD 0, order }

/-- The character between fields that an option names. -/
def separatorOf? (text : Octets) : Option Char :=
  match text.toList with
  | [c] => some c
  | ['\\', '0'] => some '\x00'
  | _ => none

def sortRules : List OptionRule :=
  [⟨'b', "ignore-leading-blanks", .nothing⟩, ⟨'d', "dictionary-order", .nothing⟩,
   ⟨'f', "ignore-case", .nothing⟩, ⟨'g', "general-numeric-sort", .nothing⟩,
   ⟨'h', "human-numeric-sort", .nothing⟩, ⟨'i', "ignore-nonprinting", .nothing⟩,
   ⟨'M', "month-sort", .nothing⟩, ⟨'n', "numeric-sort", .nothing⟩, ⟨'r', "reverse", .nothing⟩,
   ⟨'R', "random-sort", .nothing⟩, ⟨'V', "version-sort", .nothing⟩, ⟨'c', "check", .nothing⟩,
   ⟨'C', "", .nothing⟩, ⟨'m', "merge", .nothing⟩, ⟨'o', "output", .needed⟩,
   ⟨'s', "stable", .nothing⟩, ⟨'t', "field-separator", .needed⟩, ⟨'u', "unique", .nothing⟩,
   ⟨'z', "zero-terminated", .nothing⟩, ⟨'k', "key", .needed⟩, ⟨'S', "buffer-size", .needed⟩,
   ⟨'T', "temporary-directory", .needed⟩, ⟨'\x10', "parallel", .needed⟩,
   ⟨'\x11', "debug", .nothing⟩]

/-- How the options say that lines are sorted. -/
def sorterOf (invocation : Invocation) (parsed : Parsed) : Work Sorter := do
  let letters := (parsed.options.map (·.1)).filter ['b', 'd', 'f', 'g', 'h', 'i', 'M', 'n', 'r', 'V'].contains
  let general :=
    letters.foldl (fun (order : SortOrder) letter => (order.add? true true letter).getD order) {}
  let separator ←
    match parsed.value? 't' with
    | none => pure none
    | some text =>
      match separatorOf? text with
      | some c => pure (some c)
      | none =>
        fail invocation 2
          (if text.isEmpty then "empty tab" else "multi-character tab " ++ quote text)
  let keys ← (parsed.values 'k').mapM fun text => do
    match SortKey.ofText? text with
    | none => fail invocation 2 ("invalid field specification " ++ quote text)
    | some key => return if key.order = {} then { key with order := general } else key
  let keys :=
    if keys.isEmpty && { general with reverses := false } ≠ {} then [{ order := general }] else keys
  return ⟨keys, separator, parsed.has 's' || parsed.has 'u', general.reverses⟩

def sort : Tool := fun invocation => do
  let parsed ← parse invocation sortRules 2 false
  let sorter ← sorterOf invocation parsed
  let checks := parsed.has 'c' || parsed.has 'C'
  if checks then
    match parsed.operands[1]? with
    | some extra => fail invocation 2 ("extra operand " ++ quote extra ++ " not allowed with -c")
    | none => pure ()
  let ending := if parsed.has 'z' then "\x00" else "\n"
  let linesOf (content : Octets) : List SortLine :=
    let parts := content.splitOn ending
    (if parts.getLast? = some "" then parts.dropLast else parts).map sorter.line
  let contents ← (orStandard parsed.operands).mapM fun path => do
    match ← readFile invocation path with
    | .ok content => return content
    | .error .isFolder => fail invocation 2 ("read failed: " ++ shown path ++ ": Is a directory")
    | .error fault => fail invocation 2 ("cannot read: " ++ unreadable path fault)
  let rows := contents.map linesOf
  if checks then
    match sorter.disorder? (parsed.has 'u') (rows.flatMap id) with
    | none => return 0
    | some (place, text) => do
      if parsed.has 'c' then
        warn invocation
          (parsed.operands.headD "-" ++ ":" ++ Nat.repr place ++ ": disorder: " ++ text)
      return 1
  else do
    let isBefore (first second : SortLine) : Bool := sorter.compare first second ≠ .gt
    let sorted :=
      if parsed.has 'm' then
        rows.foldl (fun first second => sorter.merge (first.length + second.length) first second) []
      else (rows.flatMap id).mergeSort isBefore
    let lines := if parsed.has 'u' then sorter.withoutRepeats sorted else sorted
    let output := String.join (lines.map fun line => line.text ++ ending)
    match parsed.value? 'o' with
    | none => put invocation output
    | some target => do
      let bytes := Octets.toBytes output
      match ← Work.change fun tree => tree.write invocation.folder target bytes 0o644 with
      | none => pure ()
      | some fault => fail invocation 2 ("open failed: " ++ unreadable target fault)
    return 0

/-- Puts out lines in an order that nobody is to rely on, which is the given one. -/
def shuf : Tool := fun invocation => do
  let parsed ← arguments invocation
    [⟨'n', "head-count", .needed⟩, ⟨'e', "echo", .nothing⟩, ⟨'i', "input-range", .needed⟩,
     ⟨'r', "repeat", .nothing⟩, ⟨'o', "output", .needed⟩, ⟨'z', "zero-terminated", .nothing⟩]
  let lines ←
    match parsed.value? 'i' with
    | some range =>
      match (range.splitOn "-").map fun word => naturalOf? word.toList with
      | [some first, some last] => pure ((List.range (last + 1 - first)).map fun n => Nat.repr (n + first))
      | _ => fail invocation 1 ("invalid input range: " ++ quote range)
    | none =>
      if parsed.has 'e' then pure parsed.operands
      else
        match ← readFile invocation (parsed.operands.headD "-") with
        | .ok content => pure (Octets.lines content)
        | .error fault => fail invocation 1 (unreadable (parsed.operands.headD "-") fault)
  let count :=
    match (parsed.value? 'n').bind fun text => naturalOf? text.toList with
    | some count => count
    | none => lines.length
  put invocation (String.join ((lines.take count).map (· ++ "\n")))
  return 0

end Overseer.Tool
