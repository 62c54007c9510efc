/-!
# Decimal texts

Integers and scaled integers written in positional notation, without exponent.
-/

namespace Overseer

def powerOfTwo (exponent : Nat) : Nat := Nat.pow 2 exponent

def powerOfTen (exponent : Nat) : Nat := Nat.pow 10 exponent

/-- The digits of an integer, with a minus sign below zero. -/
def integerText : Int → String
  | .ofNat n => Nat.repr n
  | .negSucc n => "-" ++ Nat.repr (n + 1)

/-- The natural that a row of digits writes. -/
def naturalOf? (digits : List Char) : Option Nat :=
  if digits.isEmpty || !digits.all Char.isDigit then none
  else some (digits.foldl (fun value c => value * 10 + (c.toNat - '0'.toNat)) 0)

/-- The integer that a row of digits writes, with or without a sign. -/
def integerOf? : List Char → Option Int
  | '-' :: digits => (naturalOf? digits).map Int.negOfNat
  | '+' :: digits => (naturalOf? digits).map Int.ofNat
  | digits => (naturalOf? digits).map Int.ofNat

/-- Drops the zeros at the end of a fraction. -/
def dropTrailingZeros (digits : List Char) : List Char :=
  (digits.reverse.dropWhile (· = '0')).reverse

/-- The number `digits · 10 ^ exponent` in positional notation. Zeros that end
the fraction are left out, and the point with them when no digit follows it. -/
def positional (digits : Nat) (exponent : Int) : String :=
  match exponent with
  | .ofNat zeros => Nat.repr (digits * powerOfTen zeros)
  | .negSucc places =>
    let places := places + 1
    let written := List.leftpad (places + 1) '0' (Nat.toDigits 10 digits)
    let fraction := dropTrailingZeros (written.drop (written.length - places))
    let whole := written.take (written.length - places)
    String.ofList (if fraction.isEmpty then whole else whole ++ '.' :: fraction)

end Overseer
