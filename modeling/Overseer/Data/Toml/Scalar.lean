import Overseer.Data.Toml.Moment
import Overseer.Data.Value
import Overseer.Number.Nearest

/-!
# Bare scalars of TOML

The values that are written without quotes or brackets: truth values, integers
in four radixes, reals, and moments. Single underscores may stand between the
digits of a number. A number that no field can hold is well-formed all the same.
-/

namespace Overseer.Toml

/-! ## Numbers -/

/-- The digits of a number, without the single underscores between them. -/
def ungrouped? (isDigit : Char → Bool) : List Char → Option (List Char)
  | [] => none
  | [digit] => if isDigit digit then some [digit] else none
  | digit :: '_' :: rest =>
    if isDigit digit then (ungrouped? isDigit rest).map (digit :: ·) else none
  | digit :: rest => if isDigit digit then (ungrouped? isDigit rest).map (digit :: ·) else none

def decimalOf (digits : List Char) : Nat := digits.foldl (fun n c => n * 10 + digitValue c) 0

/-- Decimal digits that start with a zero only where it stands alone. -/
def wholeDigits? (input : List Char) : Option (List Char) :=
  match ungrouped? Char.isDigit input with
  | some ('0' :: _ :: _) => none
  | digits => digits

/-- The sign before a number, and the rest. -/
def signed : List Char → Bool × List Char
  | '-' :: rest => (true, rest)
  | '+' :: rest => (false, rest)
  | input => (false, input)

/-- An integer, where it is within 128 bits. -/
def integerValue (value : Int) : Value :=
  if -(powerOfTwo 127 : Int) ≤ value && value < powerOfTwo 128 then .integer value else .outOfRange

/-- The integer that the digits of a radix after `0x`, `0o` or `0b` stand for. Without
any digits the text is well-formed, but stands for nothing that a field can hold. -/
def inRadix? (radix : Nat) (digits : List Char) : Option Value := do
  if digits.isEmpty then return .outOfRange
  let value? (c : Char) : Option Nat :=
    let value :=
      if c.isDigit then digitValue c
      else if 'a' ≤ c ∧ c ≤ 'f' then c.toNat - 'a'.toNat + 10
      else if 'A' ≤ c ∧ c ≤ 'F' then c.toNat - 'A'.toNat + 10
      else radix
    if value < radix then some value else none
  let digits ← ungrouped? (fun c => (value? c).isSome) digits
  let value := digits.foldl (fun value c => value * radix + (value? c).getD 0) 0
  return integerValue value

def integer? : List Char → Option Value
  | '0' :: 'x' :: digits => inRadix? 16 digits
  | '0' :: 'o' :: digits => inRadix? 8 digits
  | '0' :: 'b' :: digits => inRadix? 2 digits
  | input =>
    let (negative, rest) := signed input
    (wholeDigits? rest).map fun digits =>
      let size : Int := decimalOf digits
      integerValue (if negative then -size else size)

/-- The exponent of a real, without its letter. -/
def exponent? (input : List Char) : Option Int :=
  let (negative, rest) := signed input
  (ungrouped? Char.isDigit rest).map fun digits =>
    let size : Int := decimalOf digits
    if negative then -size else size

/-- A real: an integer with a fraction, an exponent, or both. -/
def real? (input : List Char) : Option Value := do
  let (negative, rest) := signed input
  let (mantissa, exponent) := rest.span fun c => c ≠ 'e' && c ≠ 'E'
  let (whole, fraction) := mantissa.span (· ≠ '.')
  if exponent.isEmpty && fraction.isEmpty then none
  let whole ← wholeDigits? whole
  let fraction ← if fraction.isEmpty then some [] else ungrouped? Char.isDigit (fraction.drop 1)
  let exponent ← if exponent.isEmpty then some 0 else exponent? (exponent.drop 1)
  return match nearestFloat negative (decimalOf (whole ++ fraction))
      (exponent - fraction.length) with
    | some value => .real value
    | none => .outOfRange

/-- The reals that are written as words. -/
def realWord? (input : List Char) : Option Value :=
  let (negative, word) := signed input
  if word = ['i', 'n', 'f'] then
    some (.real (if negative then -(1.0 / 0.0) else 1.0 / 0.0))
  else if word = ['n', 'a', 'n'] then some (.real (0.0 / 0.0))
  else none

/-! ## Scalars -/

def scalar? (input : List Char) : Option Value :=
  if input = ['t', 'r', 'u', 'e'] then some (.boolean true)
  else if input = ['f', 'a', 'l', 's', 'e'] then some (.boolean false)
  else if isMoment input then some (.moment (String.ofList input))
  else (integer? input).or ((real? input).or (realWord? input))

/-- Whether a character can stand in a bare scalar. -/
def isScalarChar (c : Char) : Bool :=
  !isBlankOrMark c
where
  /-- The characters that end a bare scalar. -/
  isBlankOrMark (c : Char) : Bool :=
    ['=', ',', '[', ']', '\x7b', '\x7d', '#', ' ', '\t', '\r', '\n'].contains c

/-- A bare scalar. A blank within it is taken only between a date and its time. -/
def scalar (input : List Char) : Option (Value × List Char) :=
  let (first, rest) := input.span isScalarChar
  let joined : Option (Value × List Char) :=
    match rest with
    | ' ' :: after =>
      let (second, rest) := after.span isScalarChar
      let moment := first ++ ' ' :: second
      if isMoment moment then some (.moment (String.ofList moment), rest) else none
    | _ => none
  joined.or ((scalar? first).map (·, rest))

end Overseer.Toml
