import Overseer.Number.Nearest
import Overseer.Text.Escaped

/-!
# Format directives

A format is a text with directives in it, each of which stands for a value and says how
that is laid out: the base and the digits of a number, its sign, the least width.
-/

namespace Overseer

/-- How a value is laid out. -/
structure Layout where
  flags : List Char := []
  width : Nat := 0
  precision : Option Nat := none

/-- A width or precision. -/
inductive Amount
  | given (count : Nat)
  /-- The next value says it. -/
  | argument

structure Directive where
  flags : List Char
  width : Amount
  precision : Option Amount
  /-- The kind of value; none if the format ends here. -/
  conversion : Option Char

namespace Directive

def readAmount : List Char → Amount × List Char
  | '*' :: rest => (.argument, rest)
  | text =>
    let (digits, rest) := text.span Char.isDigit
    (.given (valueOfDigits 10 digits), rest)

/-- The directive after a percent sign, and the rest of the format. -/
def read (text : List Char) : Directive × List Char :=
  let (flags, rest) := text.span ['-', '+', ' ', '#', '0'].contains
  let (width, rest) := readAmount rest
  let (precision, rest) :=
    match rest with
    | '.' :: rest =>
      let (precision, rest) := readAmount rest
      (some precision, rest)
    | _ => (none, rest)
  (⟨flags, width, precision, rest.head?⟩, rest.drop 1)

end Directive

namespace Layout

def has (layout : Layout) (flag : Char) : Bool := layout.flags.contains flag

/-- Brings a sign and digits to the width. -/
def pad (layout : Layout) (sign body : List Char) (fillsWithZeros : Bool) : Octets :=
  let missing := layout.width - sign.length - body.length
  String.ofList
    (if layout.has '-' then sign ++ body ++ List.replicate missing ' '
    else if fillsWithZeros && layout.has '0' then sign ++ List.replicate missing '0' ++ body
    else List.replicate missing ' ' ++ sign ++ body)

/-- Lays out a text, of which at most so many characters are shown as the precision
says. -/
def text (layout : Layout) (text : Octets) : Octets :=
  let chars := text.toList
  layout.pad [] (match layout.precision with
    | some most => chars.take most
    | none => chars) false

def signOf (layout : Layout) (isNegative : Bool) : List Char :=
  if isNegative then ['-'] else if layout.has '+' then ['+'] else if layout.has ' ' then [' '] else []

/-- The digits of a number, at least as many as the precision says. -/
def digits (layout : Layout) (base value : Nat) : List Char :=
  match layout.precision with
  | some 0 => if value = 0 then [] else Nat.toDigits base value
  | some least => (Nat.toDigits base value).leftpad least '0'
  | none => Nat.toDigits base value

/-- Lays out an integer with its sign. -/
def integer (layout : Layout) (value : Int) : Octets :=
  layout.pad (layout.signOf (value < 0)) (layout.digits 10 value.natAbs) layout.precision.isNone

/-- Lays out a natural number as the conversion says. -/
def natural (layout : Layout) (conversion : Char) (value : Nat) : Octets :=
  let fills := layout.precision.isNone
  match conversion with
  | 'o' =>
    let digits := layout.digits 8 value
    layout.pad [] (if layout.has '#' && digits.head? ≠ some '0' then '0' :: digits else digits) fills
  | 'x' | 'X' =>
    let mark := if layout.has '#' && value ≠ 0 then ['0', conversion] else []
    let digits := layout.digits 16 value
    layout.pad mark (if conversion = 'X' then digits.map Char.toUpper else digits) fills
  | _ => layout.pad [] (layout.digits 10 value) fills

/-! ## Floats -/

open BinaryValue (Ratio)

/-- A ratio times `10 ^ exponent`, rounded to a natural. -/
def roundedScaled (ratio : Ratio) : Int → Nat
  | .ofNat e => roundedQuotient (ratio.num * powerOfTen e) ratio.den
  | .negSucc e => roundedQuotient ratio.num (ratio.den * powerOfTen (e + 1))

/-- Drops the zeros at the end of a fraction, and the point with it. -/
def trimFraction (whole fraction : List Char) : List Char × List Char :=
  (whole, dropTrailingZeros fraction)

def withPoint (layout : Layout) (parts : List Char × List Char) : List Char :=
  if parts.2.isEmpty && !layout.has '#' then parts.1 else parts.1 ++ '.' :: parts.2

/-- The digits of a ratio before and after the point, with so many places. -/
def fixedParts (ratio : Ratio) (places : Nat) : List Char × List Char :=
  let digits := (Nat.toDigits 10 (roundedScaled ratio places)).leftpad (places + 1) '0'
  digits.splitAt (digits.length - places)

/-- The first digits of a positive ratio, one and so many more, and the power of ten of
the first. -/
def leadingDigits (ratio : Ratio) (places : Nat) : Nat × Int :=
  if ratio.num = 0 then (0, 0)
  else
    let power := DecimalValue.leadingPower ratio
    let digits := roundedScaled ratio ((places : Int) - power)
    if powerOfTen (places + 1) ≤ digits then (digits / 10, power + 1) else (digits, power)

def exponentText (letter : Char) (power : Int) : List Char :=
  letter :: (if power < 0 then '-' else '+') :: (Nat.toDigits 10 power.natAbs).leftpad 2 '0'

def scientificParts (ratio : Ratio) (places : Nat) : List Char × List Char × Int :=
  let (digits, power) := leadingDigits ratio places
  let digits := (Nat.toDigits 10 digits).leftpad (places + 1) '0'
  (digits.take 1, digits.drop 1, power)

/-- Lays out a magnitude as the conversion says; an upper-case one differs only in the
letter of the exponent. -/
def magnitude (layout : Layout) (conversion : Char) (ratio : Ratio) : List Char :=
  let letter := if conversion.isUpper then 'E' else 'e'
  let places := layout.precision.getD 6
  match conversion.toLower with
  | 'e' =>
    let (whole, fraction, power) := scientificParts ratio places
    layout.withPoint (whole, fraction) ++ exponentText letter power
  | 'g' =>
    let places := max places 1
    let (whole, fraction, power) := scientificParts ratio (places - 1)
    let trim (whole fraction : List Char) : List Char × List Char :=
      if layout.has '#' then (whole, fraction) else trimFraction whole fraction
    if power < -4 || (places : Int) ≤ power then
      layout.withPoint (trim whole fraction) ++ exponentText letter power
    else
      let (whole, fraction) := fixedParts ratio ((places : Int) - 1 - power).toNat
      layout.withPoint (trim whole fraction)
  | _ => layout.withPoint (fixedParts ratio places)

/-- The digits of a magnitude in base sixteen, with an exponent of two. -/
def hexadecimal (layout : Layout) (value : BinaryValue) : List Char :=
  let places := layout.precision.getD 13
  let isNormal := powerOfTwo 52 ≤ value.mantissa
  let lost := 52 - 4 * min places 13
  let rounded := roundedQuotient value.mantissa (powerOfTwo lost)
  let whole := rounded / powerOfTwo (52 - lost)
  let fraction := (Nat.toDigits 16 (rounded % powerOfTwo (52 - lost))).leftpad (min places 13) '0'
  let fraction :=
    if layout.precision.isNone then dropTrailingZeros fraction
    else if places = 0 then [] else fraction ++ List.replicate (places - 13) '0'
  let power : Int :=
    if isNormal then value.exponent + 52 else if value.mantissa = 0 then 0 else -1022
  layout.withPoint (Nat.toDigits 16 whole, fraction) ++
    'p' :: (if power < 0 then '-' else '+') :: Nat.toDigits 10 power.natAbs

/-- Lays out a float as the conversion says. -/
def float (layout : Layout) (conversion : Char) (x : Float) : Octets :=
  let bits := x.toBits.toNat
  let magnitude := bits % powerOfTwo 63
  let sign := layout.signOf (bits ≠ magnitude)
  let shown (chars : List Char) : List Char :=
    if conversion.isUpper then chars.map Char.toUpper else chars
  if 2047 * powerOfTwo 52 < magnitude then layout.pad sign (shown ['n', 'a', 'n']) false
  else if magnitude = 2047 * powerOfTwo 52 then layout.pad sign (shown ['i', 'n', 'f']) false
  else
    let value := BinaryValue.ofBits magnitude
    if conversion.toLower = 'a' then
      layout.pad (sign ++ shown ['0', 'x']) (shown (layout.hexadecimal value)) true
    else
      let ratio := value.quarterRatio (4 * value.mantissa)
      layout.pad sign (layout.magnitude conversion ratio) true

end Layout

end Overseer
