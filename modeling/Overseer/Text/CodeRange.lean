/-!
# Ranges of code points

Character properties are kept as lists of closed ranges of code points.
-/

namespace Overseer.Text

/-- Closed ranges of code points, each with its first and its last. -/
abbrev CodeRanges := List (Nat × Nat)

/-- Whether some range holds `c`. -/
def CodeRanges.contains (ranges : CodeRanges) (c : Char) : Bool :=
  ranges.any fun (first, last) => first ≤ c.toNat && c.toNat ≤ last

end Overseer.Text
