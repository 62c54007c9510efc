import Overseer.Number.Shortest

/-!
# Nearest floats

`nearestFloat` gives the binary float next to a decimal number; a number halfway
between two floats goes to the one with the even mantissa. Numbers that round
beyond the largest float have none.
-/

namespace Overseer

/-- The quotient rounded to the nearest natural, a half to the even one. -/
def roundedQuotient (num den : Nat) : Nat :=
  let quotient := num / den
  let rest := num % den
  if 2 * rest < den then quotient
  else if den < 2 * rest then quotient + 1
  else quotient + quotient % 2

namespace BinaryValue

/-- A ratio divided by `2 ^ exponent`. -/
def Ratio.scaledDown (ratio : Ratio) (exponent : Int) : Ratio :=
  match exponent with
  | .ofNat e => ⟨ratio.num, ratio.den * powerOfTwo e⟩
  | .negSucc e => ⟨ratio.num * powerOfTwo (e + 1), ratio.den⟩

/-- The exponent at which a positive ratio has a mantissa of 53 bits, or the
least exponent there is. -/
def exponentOf (ratio : Ratio) : Int :=
  let guess : Int := (ratio.num.log2 : Int) - ratio.den.log2 - 52
  let scaled := ratio.scaledDown guess
  max (if scaled.num < powerOfTwo 52 * scaled.den then guess - 1 else guess) (-1074)

/-- The value next to a positive ratio. Its mantissa may take a 54th bit. -/
def nearest (ratio : Ratio) : BinaryValue :=
  let exponent := exponentOf ratio
  let scaled := ratio.scaledDown exponent
  ⟨roundedQuotient scaled.num scaled.den, exponent⟩

/-- The bits of the float with the given magnitude. The carry of a mantissa that
was rounded up goes into the exponent field. -/
def toBits (value : BinaryValue) : Nat :=
  if value.mantissa < powerOfTwo 52 then value.mantissa
  else (value.exponent + 1075).toNat * powerOfTwo 52 + (value.mantissa - powerOfTwo 52)

end BinaryValue

/-- The float nearest to `digits · 10 ^ exponent`. -/
def nearestFloat (negative : Bool) (digits : Nat) (exponent : Int) : Option Float :=
  let places : Int := (Nat.toDigits 10 digits).length + exponent
  let magnitude :=
    if digits = 0 || places < -400 then 0
    else if 400 < places then 2047 * powerOfTwo 52
    else (BinaryValue.nearest (DecimalValue.ratio ⟨digits, exponent⟩)).toBits
  if magnitude < 2047 * powerOfTwo 52 then
    some (Float.ofBits (UInt64.ofNat (magnitude + if negative then powerOfTwo 63 else 0)))
  else none

end Overseer
