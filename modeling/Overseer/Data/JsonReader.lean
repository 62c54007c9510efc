import Overseer.Data.Value
import Overseer.Number.Decimal

/-!
# Reading JSON

`Value.ofJson?` reads a JSON text. Of two fields with one name the later counts.
An integer that fits 64 bits, signed or not, stays an integer, except `-0`; any
other number becomes a real. A real is the leading digits of the number, as many
as 64 bits hold, scaled by a power of ten.
-/

namespace Overseer

namespace JsonReader

/-! ## Numbers -/

/-- The reals `10 ^ n` for `n` up to 308. -/
def powerOfTen (n : Nat) : Float := Float.ofScientific 1 false n

/-- `significand · 10 ^ exponent`, rounded after each step; none on overflow. -/
def scale (significand : Float) (exponent : Int) : Option Float :=
  if exponent < -308 then
    if significand == 0.0 then some significand
    else scale (significand / powerOfTen 308) (exponent + 308)
  else if exponent < 0 then some (significand / powerOfTen exponent.natAbs)
  else if exponent ≤ 308 then
    let scaled := significand * powerOfTen exponent.natAbs
    if scaled.isInf then none else some scaled
  else if significand == 0.0 then some significand
  else none
termination_by exponent.natAbs
decreasing_by omega

/-- The digits at the start of a text. -/
def digits (input : List Char) : List Char × List Char := input.span Char.isDigit

def digitValue (c : Char) : Nat := c.toNat - '0'.toNat

/-- Adds digits to a significand while it fits 64 bits; the digits left over are
counted. -/
def significandOf (start : Nat) : List Char → Nat × Nat
  | [] => (start, 0)
  | digit :: rest =>
    let next := start * 10 + digitValue digit
    if next < powerOfTwo 64 then significandOf next rest else (start, rest.length + 1)

/-- The exponent after `e` or `E`, or zero when there is none. -/
def exponentPart : List Char → Option (Int × List Char)
  | c :: rest =>
    if c = 'e' || c = 'E' then
      let (negative, rest) :=
        match rest with
        | '-' :: rest => (true, rest)
        | '+' :: rest => (false, rest)
        | _ => (false, rest)
      match digits rest with
      | ([], _) => none
      | (found, rest) =>
        let size := found.foldl (fun n c => n * 10 + digitValue c) 0
        some (if negative then -size else size, rest)
    else some (0, c :: rest)
  | [] => some (0, [])

/-- The digits after a point, or none when there is no point. -/
def fractionPart : List Char → Option (List Char × List Char)
  | '.' :: rest =>
    match digits rest with
    | ([], _) => none
    | found => some found
  | rest => some ([], rest)

/-- The real with the given parts. Digits that do not fit the significand are
dropped; those before the point still count for its size. -/
def real? (negative : Bool) (whole fraction : List Char) (exponent : Int) : Option Float :=
  let (leading, dropped) := significandOf 0 whole
  let (significand, unused) := significandOf leading fraction
  let places := fraction.length - unused
  (scale (UInt64.ofNat significand).toFloat (dropped - places + exponent)).map fun size =>
    if negative then -size else size

/-- An integer as it stands, where it fits. -/
def integer? (negative : Bool) (whole : List Char) : Option Int :=
  let size := whole.foldl (fun n c => n * 10 + digitValue c) 0
  if negative then
    if 0 < size ∧ size ≤ powerOfTwo 63 then some (-size) else none
  else if size < powerOfTwo 64 then some size
  else none

def number (input : List Char) : Option (Value × List Char) := do
  let (negative, input) :=
    match input with
    | '-' :: rest => (true, rest)
    | _ => (false, input)
  let (whole, rest) := digits input
  if whole.isEmpty || (whole.head? = some '0' && 1 < whole.length) then none
  let (fraction, afterFraction) ← fractionPart rest
  let (exponent, after) ← exponentPart afterFraction
  let isInteger := after.length = rest.length
  match if isInteger then integer? negative whole else none with
  | some value => some (.integer value, after)
  | none => some (.real (← real? negative whole fraction exponent), after)

/-! ## Strings -/

def hexValue? (c : Char) : Option Nat :=
  if c.isDigit then some (c.toNat - '0'.toNat)
  else if 'a' ≤ c ∧ c ≤ 'f' then some (c.toNat - 'a'.toNat + 10)
  else if 'A' ≤ c ∧ c ≤ 'F' then some (c.toNat - 'A'.toNat + 10)
  else none

/-- Four hexadecimal digits. -/
def unit16 : List Char → Option (Nat × List Char)
  | a :: b :: c :: d :: rest => do
    some ((((← hexValue? a) * 16 + (← hexValue? b)) * 16 + (← hexValue? c)) * 16 +
      (← hexValue? d), rest)
  | _ => none

/-- The character after `\u`: one unit, or a pair of surrogates. -/
def escapedUnit (input : List Char) : Option (Char × List Char) := do
  let (first, rest) ← unit16 input
  if 0xD800 ≤ first ∧ first < 0xDC00 then
    match rest with
    | '\\' :: 'u' :: rest =>
      let (second, rest) ← unit16 rest
      if 0xDC00 ≤ second ∧ second < 0xE000 then
        some (Char.ofNat (0x10000 + (first - 0xD800) * 0x400 + (second - 0xDC00)), rest)
      else none
    | _ => none
  else if 0xDC00 ≤ first ∧ first < 0xE000 then none
  else some (Char.ofNat first, rest)

def shortEscape? (c : Char) : Option Char :=
  match c with
  | '"' => some '"'
  | '\\' => some '\\'
  | '/' => some '/'
  | 'b' => some '\x08'
  | 'f' => some '\x0c'
  | 'n' => some '\n'
  | 'r' => some '\r'
  | 't' => some '\t'
  | _ => none

/-- The rest of a string after its opening quote; `read` holds the characters so
far, latest first. -/
def stringRest : Nat → List Char → List Char → Option (String × List Char)
  | fuel + 1, read, '\\' :: 'u' :: rest =>
    match escapedUnit rest with
    | some (c, rest) => stringRest fuel (c :: read) rest
    | none => none
  | fuel + 1, read, '\\' :: c :: rest =>
    match shortEscape? c with
    | some escaped => stringRest fuel (escaped :: read) rest
    | none => none
  | _ + 1, read, '"' :: rest => some (String.ofList read.reverse, rest)
  | fuel + 1, read, c :: rest =>
    if c.toNat < 0x20 || c = '\\' then none else stringRest fuel (c :: read) rest
  | _, _, _ => none

/-! ## Documents -/

def isBlank (c : Char) : Bool := c = ' ' || c = '\t' || c = '\n' || c = '\r'

def skipBlanks (input : List Char) : List Char := input.dropWhile isBlank

/-- Puts a field in place of an earlier one of the same name. -/
def setField (fields : List (String × Value)) (name : String) (value : Value) :
    List (String × Value) :=
  if fields.any (·.1 = name) then
    fields.map fun field => if field.1 = name then (name, value) else field
  else fields ++ [(name, value)]

mutual

/-- A value; `fuel` bounds the characters that are left. -/
def value : Nat → List Char → Option (Value × List Char)
  | 0, _ => none
  | fuel + 1, input =>
    match skipBlanks input with
    | '\x7b' :: rest =>
      match skipBlanks rest with
      | '\x7d' :: rest => some (.record [], rest)
      | rest => recordRest fuel [] rest
    | '[' :: rest =>
      match skipBlanks rest with
      | ']' :: rest => some (.list [], rest)
      | rest => listRest fuel [] rest
    | '"' :: rest => (stringRest rest.length [] rest).map fun (text, rest) => (.text text, rest)
    | 't' :: 'r' :: 'u' :: 'e' :: rest => some (.boolean true, rest)
    | 'f' :: 'a' :: 'l' :: 's' :: 'e' :: rest => some (.boolean false, rest)
    | 'n' :: 'u' :: 'l' :: 'l' :: rest => some (.null, rest)
    | input => number input

/-- The items of a list from the next one on; `read` is reversed. -/
def listRest : Nat → List Value → List Char → Option (Value × List Char)
  | 0, _, _ => none
  | fuel + 1, read, input =>
    match value fuel input with
    | none => none
    | some (item, rest) =>
      match skipBlanks rest with
      | ',' :: rest => listRest fuel (item :: read) rest
      | ']' :: rest => some (.list (item :: read).reverse, rest)
      | _ => none

/-- The fields of a record from the next one on. -/
def recordRest : Nat → List (String × Value) → List Char → Option (Value × List Char)
  | 0, _, _ => none
  | fuel + 1, read, input =>
    match skipBlanks input with
    | '"' :: rest =>
      match stringRest rest.length [] rest with
      | none => none
      | some (name, rest) =>
        match skipBlanks rest with
        | ':' :: rest =>
          match value fuel rest with
          | none => none
          | some (content, rest) =>
            let read := setField read name content
            match skipBlanks rest with
            | ',' :: rest => recordRest fuel read rest
            | '\x7d' :: rest => some (.record read, rest)
            | _ => none
        | _ => none
    | _ => none

end

end JsonReader

/-- The document of a JSON text; none for a text that is not JSON. -/
def Value.ofJson? (text : String) : Option Value :=
  let input := text.toList
  match JsonReader.value (input.length + 1) input with
  | some (value, rest) => if (JsonReader.skipBlanks rest).isEmpty then some value else none
  | none => none

end Overseer
