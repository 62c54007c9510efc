import Overseer.Number.Nearest
import Overseer.Text.Escaped

/-!
# Numbers at the start of a text

Readers that take a number from the start of a text, after blanks, and leave the rest.
-/

namespace Overseer

/-- Whether a character is blank for the readers of numbers. -/
def isSpacing (c : Char) : Bool := c = ' ' || ('\t' ≤ c && c ≤ '\r')

/-- A sign at the start of a text; whether it is a minus, and the rest. -/
def leadingSign : List Char → Bool × List Char
  | '-' :: rest => (true, rest)
  | '+' :: rest => (false, rest)
  | text => (false, text)

/-- The integer at the start of a text, none if there is none. A leading zero may say
that the base is eight or sixteen. -/
def leadingInteger? (hasBases : Bool) (text : List Char) : Option (Int × List Char) :=
  let (isNegative, text) := leadingSign (text.dropWhile isSpacing)
  let isHexadecimal :=
    match text with
    | '0' :: x :: digit :: _ => (x = 'x' || x = 'X') && (digitValue? 16 digit).isSome
    | _ => false
  let base :=
    if !hasBases then 10 else if isHexadecimal then 16 else if text.head? = some '0' then 8 else 10
  let text := if hasBases && isHexadecimal then text.drop 2 else text
  let (digits, rest) := text.span fun c => (digitValue? base c).isSome
  let value : Int := valueOfDigits base digits
  if digits.isEmpty then none else some (if isNegative then -value else value, rest)

/-- The float that a ratio of digits in base sixteen and a power of two comes to. -/
def hexadecimalFloat (isNegative : Bool) (digits : Nat) (power : Int) : Float :=
  let ratio : BinaryValue.Ratio :=
    match power with
    | .ofNat e => ⟨digits * powerOfTwo (min e 3000), 1⟩
    | .negSucc e => ⟨digits, powerOfTwo (min (e + 1) 3000)⟩
  let magnitude :=
    if digits = 0 then 0 else min (BinaryValue.nearest ratio).toBits (2047 * powerOfTwo 52)
  Float.ofBits (UInt64.ofNat (magnitude + if isNegative then powerOfTwo 63 else 0))

/-- The float without bounds, of either sign. -/
def infiniteFloat (isNegative : Bool) : Float :=
  Float.ofBits (UInt64.ofNat (2047 * powerOfTwo 52 + if isNegative then powerOfTwo 63 else 0))

/-- An exponent with one of two letters before it. -/
def leadingExponent (letter : Char) (text : List Char) : Int × List Char :=
  match text with
  | c :: rest =>
    if c.toLower = letter then
      let (isNegative, digits) := leadingSign rest
      let (digits, after) := digits.span Char.isDigit
      if digits.isEmpty then (0, text)
      else
        let value : Int := valueOfDigits 10 digits
        (if isNegative then -value else value, after)
    else (0, text)
  | [] => (0, text)

/-- Digits with or without a point, as a natural and the number of places. -/
def leadingDigits? (base : Nat) (text : List Char) : Option (Nat × Nat × List Char) :=
  let isDigit (c : Char) : Bool := (digitValue? base c).isSome
  let (whole, rest) := text.span isDigit
  let (fraction, rest) :=
    match rest with
    | '.' :: after =>
      let (fraction, after) := after.span isDigit
      if whole.isEmpty && fraction.isEmpty then ([], rest) else (fraction, after)
    | _ => ([], rest)
  if whole.isEmpty && fraction.isEmpty then none
  else some (valueOfDigits base (whole ++ fraction), fraction.length, rest)

/-- The float at the start of a text: a decimal number, one in base sixteen where that is
asked for, or a word for what is no finite number. -/
def leadingFloat? (hasWords : Bool) (text : List Char) : Option (Float × List Char) :=
  let (isNegative, text) := leadingSign (text.dropWhile isSpacing)
  let startsWith (word : String) : Bool := (text.take word.length).map Char.toLower = word.toList
  if hasWords && startsWith "infinity" then some (infiniteFloat isNegative, text.drop 8)
  else if hasWords && startsWith "inf" then some (infiniteFloat isNegative, text.drop 3)
  else if hasWords && startsWith "nan" then
    some (Float.ofBits (UInt64.ofNat
      (4095 * powerOfTwo 51 + if isNegative then powerOfTwo 63 else 0)), text.drop 3)
  else
    let hexadecimal :=
      if hasWords && startsWith "0x" then leadingDigits? 16 (text.drop 2) else none
    match hexadecimal with
    | some (digits, places, rest) =>
      let (power, rest) := leadingExponent 'p' rest
      some (hexadecimalFloat isNegative digits (power - 4 * places), rest)
    | none => do
      let (digits, places, rest) ← leadingDigits? 10 text
      let (power, rest) := leadingExponent 'e' rest
      let value := (nearestFloat isNegative digits (power - places)).getD (infiniteFloat isNegative)
      return (value, rest)

end Overseer
