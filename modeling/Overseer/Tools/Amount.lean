import Overseer.Number.Decimal
import Overseer.Text.Octets

/-!
# Amounts

Numbers of lines, bytes and blocks as they are given to tools: digits, and a letter for a
unit.
-/

namespace Overseer

/-- What a unit multiplies a number with; none if there is no such unit. -/
def unitFactor? (unit : Octets) : Option Nat :=
  let powers := ['K', 'M', 'G', 'T', 'P', 'E', 'Z', 'Y']
  match unit.toList with
  | [] => some 1
  | ['b'] => some 512
  | ['k', 'B'] => some 1000
  | ['k'] => some 1024
  | letter :: rest => do
    let place ← powers.findIdx? (· = letter)
    match rest with
    | [] | ['i', 'B'] => some (Nat.pow 1024 (place + 1))
    | ['B'] => some (Nat.pow 1000 (place + 1))
    | _ => none

/-- The number that digits and a unit write. -/
def amountOf? (text : Octets) : Option Nat := do
  let (digits, unit) := text.toList.span Char.isDigit
  let factor ← unitFactor? (String.ofList unit)
  if digits.isEmpty then (if unit.isEmpty then none else some factor)
  else return (← naturalOf? digits) * factor

end Overseer
