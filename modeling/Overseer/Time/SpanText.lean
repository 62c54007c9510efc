import Overseer.Time.Basic
import Overseer.Number.Decimal

/-!
# Written spans

A span is written in the largest of the units second, millisecond, microsecond
and nanosecond that it fills at least once, with as many decimal places as it
needs.
-/

namespace Overseer

def Span.text (span : Span) : String :=
  if 1000000000 ≤ span.nanos then positional span.nanos (-9) ++ "s"
  else if 1000000 ≤ span.nanos then positional span.nanos (-6) ++ "ms"
  else if 1000 ≤ span.nanos then positional span.nanos (-3) ++ "µs"
  else positional span.nanos 0 ++ "ns"

end Overseer
