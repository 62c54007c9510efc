import Overseer.Tools.Records.Value

/-!
# Formats of record programs

Each directive of a format takes a value. Nothing is put out from the first directive on
that has none, or whose kind is not known.
-/

namespace Overseer.Records

/-- What is wrong with a format. -/
inductive FormatFault
  | tooFewValues
  /-- The kind of value of a directive is not known. -/
  | improper (number : Nat)

namespace FormatFault

def text (format : Octets) : FormatFault → Octets
  | tooFewValues =>
    "run time error: not enough arguments passed to printf(\"" ++ format ++ "\")"
  | improper number =>
    "run time error: improper conversion(number " ++ Nat.repr number ++ ") in printf(\"" ++
      format ++ "\")"

end FormatFault

/-- The integer that a number is put out as. Beyond the ones with a sign, the ones without
go on. -/
def signedOf (value : Float) : Int :=
  max (1 - (powerOfTwo 63 : Int)) (min ((powerOfTwo 64 : Int) - 1) (wholePart value))

/-- The natural number that a number is put out as; a negative one counts from the end. -/
def unsignedOf (value : Float) : Nat :=
  let whole := signedOf value
  (if whole < 0 then whole + (powerOfTwo 64 : Int) else whole).toNat

/-- The character that a value is put out as: one with its number, or else its first one. -/
def characterOf (value : Value) : Char :=
  let ofNumber (number : Float) : Char := Char.ofNat (wholePart number % 256).toNat
  match value with
  | .text octets => octets.toList.headD '\x00'
  | .read octets =>
    match Value.looksLike? octets with
    | some number => ofNumber number
    | none => octets.toList.headD '\x00'
  | .number number => ofNumber number
  | .unset => '\x00'

/-- Lays out a value as a directive says. The number format is for texts. -/
def convert? (numbers : Octets) (layout : Layout) (conversion : Char) (value : Value) :
    Option Octets :=
  if conversion = 's' then some (layout.text (value.toText numbers))
  else if conversion = 'c' then some (layout.pad [] [characterOf value] false)
  else if conversion = 'd' || conversion = 'i' then
    some (layout.integer (signedOf value.toNumber))
  else if ['o', 'x', 'X', 'u'].contains conversion then
    some (layout.natural conversion (unsignedOf value.toNumber))
  else if ['e', 'E', 'f', 'g', 'G'].contains conversion then
    some (layout.float conversion value.toNumber)
  else none

/-- A width or precision, and the values that are left. -/
def amountFrom (values : List Value) : Amount → Option (Int × List Value)
  | .given count => some (count, values)
  | .argument =>
    match values with
    | [] => none
    | value :: rest => some (wholePart value.toNumber, rest)

/-- What a format comes to with some values, and what is wrong with it; `number` is the one
of the next directive. -/
def formatted (numbers : Octets) : (fuel : Nat) → (number : Nat) → List Char → List Value →
    Octets × Option FormatFault
  | 0, _, _, _ => ("", none)
  | _, _, [], _ => ("", none)
  | fuel + 1, number, '%' :: '%' :: rest, values =>
    let (after, fault) := formatted numbers fuel number rest values
    ("%" ++ after, fault)
  | fuel + 1, number, '%' :: rest, values =>
    let (directive, rest) := Directive.read rest
    let isSize (c : Char) : Bool := c = 'h' || c = 'l'
    let (conversion, rest) :=
      match directive.conversion with
      | some c =>
        if isSize c then ((rest.dropWhile isSize).head?, (rest.dropWhile isSize).drop 1)
        else (some c, rest)
      | none => (none, rest)
    let amounts := do
      let (width, values) ← amountFrom values directive.width
      let (precision, values) ←
        match directive.precision with
        | some amount => do
          let (precision, values) ← amountFrom values amount
          pure (if precision < 0 then none else some precision.toNat, values)
        | none => pure (none, values)
      some (width, precision, values)
    match amounts with
    | none | some (_, _, []) => ("", some .tooFewValues)
    | some (width, precision, value :: values) =>
      let flags := if width < 0 then '-' :: directive.flags else directive.flags
      match conversion.bind fun c => convert? numbers ⟨flags, width.natAbs, precision⟩ c value with
      | none => ("", some (.improper number))
      | some octets =>
        let (after, fault) := formatted numbers fuel (number + 1) rest values
        (octets ++ after, fault)
  | fuel + 1, number, c :: rest, values =>
    let (after, fault) := formatted numbers fuel number rest values
    (String.singleton c ++ after, fault)

end Overseer.Records
