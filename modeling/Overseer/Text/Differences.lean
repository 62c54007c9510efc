/-!
# Differences

How one list comes out of another with the fewest removals and additions. Equal items at the
front are always kept, which puts each change as late as it can be.
-/

namespace Overseer

/-- A stretch of a list in the place of a stretch of another. -/
structure Difference where
  /-- Where the stretches begin. -/
  first : Nat
  second : Nat
  /-- How long they are. -/
  removed : Nat
  added : Nat
  deriving DecidableEq

namespace Difference

/-- The lengths of the longest common parts of the rest of a list, which begins with an item,
and each rest of another list; `below` are those without the item. -/
def row [BEq α] (item : α) : List α → List Nat → List Nat
  | [], below => below
  | other :: others, below =>
    let rest := row item others (below.drop 1)
    let length :=
      if item == other then (below[1]?).getD 0 + 1 else max (below.headD 0) (rest.headD 0)
    length :: rest

/-- The rows for each rest of a list, the longest rest first. -/
def rows [BEq α] (second : List α) : List α → List (List Nat)
  | [] => [List.replicate (second.length + 1) 0]
  | item :: rest =>
    let below := rows second rest
    row item second (below.headD []) :: below

/-- Adds a change at a place to the changes after it. -/
def add (first second removed added : Nat) : List Difference → List Difference
  | [] => [⟨first, second, removed, added⟩]
  | next :: rest =>
    if first + removed = next.first && second + added = next.second then
      ⟨first, second, removed + next.removed, added + next.added⟩ :: rest
    else ⟨first, second, removed, added⟩ :: next :: rest

/-- The changes from two places on, given the rows for the rests of the first list. `fuel`
bounds the items. -/
def walk [BEq α] : (fuel : Nat) → (i j : Nat) → List α → List α → List (List Nat) →
    List Difference
  | 0, _, _, _, _, _ => []
  | _, i, j, [], second, _ => if second.isEmpty then [] else [⟨i, j, 0, second.length⟩]
  | _, i, j, first, [], _ => [⟨i, j, first.length, 0⟩]
  | fuel + 1, i, j, a :: first, b :: second, lengths =>
    let shorter := lengths.map fun row => row.drop 1
    if a == b then walk fuel (i + 1) (j + 1) first second (shorter.drop 1)
    else
      let without := ((lengths[1]?).getD []).headD 0
      let skipping := (shorter.headD []).headD 0
      if skipping ≤ without then
        add i j 1 0 (walk fuel (i + 1) j first (b :: second) (lengths.drop 1))
      else add i j 0 1 (walk fuel i (j + 1) (a :: first) second shorter)

/-- The number of items that two lists have in common at their front. -/
def commonFront [BEq α] : List α → List α → Nat
  | a :: first, b :: second => if a == b then commonFront first second + 1 else 0
  | _, _ => 0

/-- The changes that make the second list of the first. -/
def between [BEq α] (first second : List α) : List Difference :=
  let front := commonFront first second
  let first := first.drop front
  let second := second.drop front
  let back := commonFront first.reverse second.reverse
  let first := first.take (first.length - back)
  let second := second.take (second.length - back)
  walk (first.length + second.length + 1) front front first second (rows second first)

end Difference

end Overseer
