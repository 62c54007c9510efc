import Overseer.Digest.Basic
import Overseer.Tools.Amount
import Overseer.Tools.Joining

/-!
# Dumps

`od` shows bytes in numbers or as characters, in lines of equally many bytes, each with the
place of its first byte.
-/

namespace Overseer.Tool

/-! ## Formats -/

/-- What is shown of some bytes. -/
inductive DumpKind
  | named
  | char
  | signed (size : Nat)
  | unsigned (size : Nat)
  | octal (size : Nat)
  | hexadecimal (size : Nat)

structure DumpFormat where
  kind : DumpKind
  /-- Whether the characters are shown at the end of the line. -/
  showsText : Bool := false

namespace DumpKind

/-- The number of bytes that are shown as one. -/
def size : DumpKind → Nat
  | named | char => 1
  | signed size | unsigned size | octal size | hexadecimal size => size

/-- The number of digits that the greatest number has in a base. -/
def digitCount (base size : Nat) : Nat := (Nat.toDigits base (Nat.pow 256 size - 1)).length

/-- The width of what is shown. -/
def width : DumpKind → Nat
  | named | char => 3
  | signed size => (Nat.toDigits 10 (Nat.pow 256 size / 2)).length + 1
  | unsigned size => digitCount 10 size
  | octal size => digitCount 8 size
  | hexadecimal size => digitCount 16 size

def controlNames : List String :=
  ["nul", "soh", "stx", "etx", "eot", "enq", "ack", "bel", "bs", "ht", "nl", "vt", "ff", "cr",
   "so", "si", "dle", "dc1", "dc2", "dc3", "dc4", "nak", "syn", "etb", "can", "em", "sub", "esc",
   "fs", "gs", "rs", "us", "sp"]

/-- How a byte is shown as a character. -/
def charText (byte : Nat) : Octets :=
  let escapes : List (Nat × String) :=
    [(0, "\\0"), (7, "\\a"), (8, "\\b"), (9, "\\t"), (10, "\\n"), (11, "\\v"), (12, "\\f"),
     (13, "\\r")]
  match escapes.lookup byte with
  | some text => text
  | none =>
    if 32 ≤ byte && byte < 127 then String.singleton (Char.ofNat byte)
    else String.ofList ((Nat.toDigits 8 byte).leftpad 3 '0')

/-- How some bytes are shown. -/
def text (kind : DumpKind) (bytes : List Nat) : Octets :=
  let number := Digest.numberUp bytes
  let filled (base : Nat) : Octets :=
    String.ofList ((Nat.toDigits base number).leftpad kind.width '0')
  match kind with
  | named =>
    let byte := number % 128
    if byte = 127 then "del" else (controlNames[byte]?).getD (String.singleton (Char.ofNat byte))
  | char => charText number
  | signed size =>
    let bound := Nat.pow 256 size
    if bound / 2 ≤ number then "-" ++ Nat.repr (bound - number) else Nat.repr number
  | unsigned _ => Nat.repr number
  | octal _ => filled 8
  | hexadecimal _ => filled 16

end DumpKind

/-- The formats that a text of letters and sizes asks for. `fuel` bounds the characters. -/
def dumpFormats? : (fuel : Nat) → List Char → Option (List DumpFormat)
  | 0, _ => none
  | _, [] => some []
  | fuel + 1, letter :: rest => do
    let (digits, after) := rest.span Char.isDigit
    let (size, rest) :=
      match naturalOf? digits, after with
      | some size, _ => (some size, after)
      | none, 'C' :: after => (some 1, after)
      | none, 'S' :: after => (some 2, after)
      | none, 'I' :: after => (some 4, after)
      | none, 'L' :: after => (some 8, after)
      | none, _ => (none, after)
    let (showsText, rest) :=
      match rest with
      | 'z' :: rest => (true, rest)
      | rest => (false, rest)
    let size := size.getD 4
    let kind : DumpKind ←
      match letter with
      | 'a' => some .named
      | 'c' => some .char
      | 'd' => some (.signed size)
      | 'u' => some (.unsigned size)
      | 'o' => some (.octal size)
      | 'x' => some (.hexadecimal size)
      | _ => none
    if !([1, 2, 4, 8].contains size) then none
    else return ⟨kind, showsText⟩ :: (← dumpFormats? fuel rest)

/-! ## Lines -/

/-- How a dump is laid out. -/
structure DumpStyle where
  formats : List DumpFormat
  /-- The base of the places; none if they are not shown. -/
  base : Option Nat
  lineSize : Nat
  /-- Whether lines like the one before are shown. -/
  showsRepeats : Bool

namespace DumpStyle

def placeWidth (base : Nat) : Nat := if base = 16 then 6 else 7

def placeText (style : DumpStyle) (place : Nat) : Octets :=
  match style.base with
  | none => ""
  | some base => String.ofList ((Nat.toDigits base place).leftpad (placeWidth base) '0')

/-- The width of a whole line in a format. -/
def formatWidth (style : DumpStyle) (format : DumpFormat) : Nat :=
  (format.kind.width + 1) * (style.lineSize / format.kind.size)

/-- A line in one format. -/
def formatted (style : DumpStyle) (format : DumpFormat) (bytes : List Nat) : Octets :=
  let size := format.kind.size
  let fields := style.lineSize / size
  let widest := (style.formats.map style.formatWidth).foldl max 0
  let padding := widest - style.formatWidth format
  let groups := Digest.Intake.pieces size (bytes.length + 1) bytes
  let texts := groups.zipIdx.map fun (group, place) =>
    let left := fields - place
    let extra := padding * left / fields - padding * (left - 1) / fields
    let text := format.kind.text (group ++ List.replicate (size - group.length) 0)
    String.ofList (text.toList.leftpad (format.kind.width + 1 + extra) ' ')
  let line := String.join texts
  if format.showsText then
    let shown := bytes.map fun byte => if 32 ≤ byte && byte < 127 then Char.ofNat byte else '.'
    line ++ String.ofList (List.replicate (widest - line.length) ' ') ++ "  >" ++
      String.ofList shown ++ "<"
  else line

/-- The lines for some bytes, in each format. -/
def entry (style : DumpStyle) (place : Nat) (bytes : List Nat) : Octets :=
  let lines := style.formats.zipIdx.map fun (format, index) =>
    let place := style.placeText place
    let start := if index = 0 then place else String.ofList (List.replicate place.length ' ')
    start ++ style.formatted format bytes ++ "\n"
  String.join lines

/-- The dump of lines of bytes from a place on. `fuel` bounds the lines. -/
def dump (style : DumpStyle) : (fuel : Nat) → (place : Nat) → (previous : List Nat) →
    (isRepeated : Bool) → List (List Nat) → List Octets
  | 0, _, _, _, _ => []
  | _, place, _, _, [] => if style.base.isSome then [style.placeText place ++ "\n"] else []
  | fuel + 1, place, previous, isRepeated, bytes :: rest =>
    let next := place + bytes.length
    if bytes = previous && !style.showsRepeats && bytes.length = style.lineSize then
      (if isRepeated then "" else "*\n") :: dump style fuel next bytes true rest
    else style.entry place bytes :: dump style fuel next bytes false rest

end DumpStyle

/-- The formats that single letters stand for. -/
def dumpLetters : List (Char × String) :=
  [('a', "a"), ('b', "o1"), ('c', "c"), ('d', "u2"), ('i', "d4"), ('l', "d8"), ('o', "o2"),
   ('s', "d2"), ('x', "x2")]

def od : Tool := fun invocation => do
  let parsed ← arguments invocation
    ((dumpLetters.map fun (letter, _) => ⟨letter, "", .nothing⟩) ++
      [⟨'A', "address-radix", .needed⟩, ⟨'t', "format", .needed⟩, ⟨'N', "read-bytes", .needed⟩,
       ⟨'j', "skip-bytes", .needed⟩, ⟨'v', "output-duplicates", .nothing⟩,
       ⟨'w', "width", .optional⟩])
  let formats ← parsed.options.filterMapM fun (letter, text) => do
    let meant :=
      if letter = 't' then some text else dumpLetters.lookup letter
    match meant with
    | none => return none
    | some text =>
      match dumpFormats? (text.length + 1) text.toList with
      | some formats => return some formats
      | none => fail invocation 1 ("invalid type string " ++ quote text)
  let formats := formats.flatten
  let amount (letter : Char) : Work (Option Nat) := do
    match parsed.value? letter with
    | none => return none
    | some text =>
      match amountOf? text with
      | some amount => return some amount
      | none => fail invocation 1 ("invalid -" ++ String.singleton letter ++ " argument " ++ quote text)
  let base ←
    match parsed.value? 'A' with
    | none | some "o" => pure (some 8)
    | some "d" => pure (some 10)
    | some "x" => pure (some 16)
    | some "n" => pure none
    | some text => fail invocation 1 ("invalid output address radix " ++ quote text)
  let skipped := (← amount 'j').getD 0
  let most ← amount 'N'
  let lineSize ←
    match parsed.value? 'w' with
    | none => pure 16
    | some "" => pure 32
    | some _ => do pure ((← amount 'w').getD 16)
  let (contents, isDone) ← readFiles invocation (orStandard parsed.operands)
  if contents.isEmpty then Work.exit 1
  let all := (contents.flatMap fun (_, content) => content.toList).map Char.toNat
  if all.length < skipped then fail invocation 1 "cannot skip past end of combined input"
  let rest := all.drop skipped
  let bytes :=
    match most with
    | some most => rest.take most
    | none => rest
  let style : DumpStyle :=
    { formats := if formats.isEmpty then [⟨.octal 2, false⟩] else formats
      base, lineSize, showsRepeats := parsed.has 'v' }
  let lines := Digest.Intake.pieces lineSize (bytes.length + 1) bytes
  put invocation (String.join (style.dump (lines.length + 1) skipped [] false lines))
  return if isDone then 0 else 1

end Overseer.Tool
