import Overseer.Number.Decimal

/-!
# Shortest decimals

`Float.shortest` writes a binary float with the fewest decimal digits that read
back as the same float; of two such decimals it takes the nearer. The result is
positional: no exponent, and no point unless digits follow it.

The float is taken apart into `mantissa · 2 ^ exponent`. The reals that round to
it form an interval around it, which holds its two ends when the mantissa is
even. For one digit, two digits and so on, the two neighbours of the value on
the grid of decimals with that many digits are tested against the interval.
-/

namespace Overseer

/-! ## Binary floats -/

/-- The value `mantissa · 2 ^ exponent`. -/
structure BinaryValue where
  mantissa : Nat
  exponent : Int

namespace BinaryValue

/-- The magnitude of the finite float with the given bits. -/
def ofBits (bits : Nat) : BinaryValue :=
  let field : Nat := bits / powerOfTwo 52 % 2048
  let fraction : Nat := bits % powerOfTwo 52
  if field = 0 then ⟨fraction, -1074⟩ else ⟨fraction + powerOfTwo 52, field - 1075⟩

/-- A ratio of naturals. -/
structure Ratio where
  num : Nat
  den : Nat

/-- `quarters / 4 · 2 ^ exponent` as a ratio. -/
def quarterRatio (value : BinaryValue) (quarters : Nat) : Ratio :=
  match value.exponent with
  | .ofNat e => ⟨quarters * powerOfTwo e, 4⟩
  | .negSucc e => ⟨quarters, 4 * powerOfTwo (e + 1)⟩

/-- Four times the mantissa at the lower end of the rounding interval. Below a
power of two the floats lie twice as close. -/
def lowerQuarters (value : BinaryValue) : Nat :=
  if value.mantissa = powerOfTwo 52 && value.exponent ≠ -1074 then 4 * value.mantissa - 1
  else 4 * value.mantissa - 2

/-- Whether the ratio rounds to the value. -/
def roundsFrom (value : BinaryValue) (ratio : Ratio) : Bool :=
  let low := value.quarterRatio value.lowerQuarters
  let high := value.quarterRatio (4 * value.mantissa + 2)
  let low_le := low.num * ratio.den
  let high_le := high.num * ratio.den
  if value.mantissa % 2 = 0 then
    low_le ≤ ratio.num * low.den && ratio.num * high.den ≤ high_le
  else
    low_le < ratio.num * low.den && ratio.num * high.den < high_le

end BinaryValue

/-! ## Decimal grids -/

/-- The number `digits · 10 ^ exponent`. -/
structure DecimalValue where
  digits : Nat
  exponent : Int

namespace DecimalValue

open BinaryValue (Ratio)

def ratio (value : DecimalValue) : Ratio :=
  match value.exponent with
  | .ofNat e => ⟨value.digits * powerOfTen e, 1⟩
  | .negSucc e => ⟨value.digits, powerOfTen (e + 1)⟩

/-- The power of ten of the leading digit of a positive ratio. -/
def leadingPower (ratio : Ratio) : Int :=
  if ratio.den ≤ ratio.num then
    (Nat.toDigits 10 (ratio.num / ratio.den)).length - 1
  else
    let inverse := (ratio.den + ratio.num - 1) / ratio.num
    Int.negOfNat (Nat.toDigits 10 (inverse - 1)).length

/-- How many steps of `10 ^ exponent` fit into the ratio. -/
def gridFloor (ratio : Ratio) (exponent : Int) : Nat :=
  match exponent with
  | .ofNat e => ratio.num / (ratio.den * powerOfTen e)
  | .negSucc e => ratio.num * powerOfTen (e + 1) / ratio.den

/-- Whether `below` is at least as near to the ratio as the grid point after it. -/
def floorIsNearer (ratio : Ratio) (below : DecimalValue) : Bool :=
  let low := below.ratio
  let high := DecimalValue.ratio ⟨below.digits + 1, below.exponent⟩
  2 * ratio.num * low.den ≤ (low.num + high.num) * ratio.den

/-- The decimal with the given count of digits that reads back as `value`, if
there is one; the nearer one if there are two. -/
def onGrid (value : BinaryValue) (count : Nat) : Option DecimalValue :=
  let exact := value.quarterRatio (4 * value.mantissa)
  let exponent := leadingPower exact - count + 1
  let below : DecimalValue := ⟨gridFloor exact exponent, exponent⟩
  let above : DecimalValue := ⟨below.digits + 1, exponent⟩
  match value.roundsFrom below.ratio, value.roundsFrom above.ratio with
  | true, true => some (if floorIsNearer exact below then below else above)
  | true, false => some below
  | false, true => some above
  | false, false => none

/-- The shortest decimal that reads back as a positive value. Seventeen digits
always do. -/
def shortest (value : BinaryValue) : DecimalValue :=
  ((List.range 17).findSome? fun n => onGrid value (n + 1)).getD ⟨0, 0⟩

end DecimalValue

/-- The shortest positional decimal of a float. -/
def shortestText (x : Float) : String :=
  let bits := x.toBits.toNat
  let magnitude := bits % powerOfTwo 63
  if 2047 * powerOfTwo 52 < magnitude then "NaN"
  else
    let sign := if bits = magnitude then "" else "-"
    if magnitude = 2047 * powerOfTwo 52 then sign ++ "inf"
    else if magnitude = 0 then sign ++ "0"
    else
      let decimal := DecimalValue.shortest (BinaryValue.ofBits magnitude)
      sign ++ positional decimal.digits decimal.exponent

end Overseer
