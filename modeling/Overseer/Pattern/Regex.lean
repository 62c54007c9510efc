import Overseer.Pattern.CharSet

/-!
# Regular expressions

Of the matches of an expression in a text, the one that starts first counts, and of
those the longest. Within it each part, from left to right, takes as much as it can
without making the whole shorter.

`ends` gives all positions where a match from a given position may end; what a
match consists of is then found without going back.
-/

namespace Overseer

inductive Regex
  | empty
  | one (set : CharSet)
  | textStart
  | textEnd
  /-- The start or end of a line of the text. -/
  | lineStart
  | lineEnd
  /-- A place between a character of a word and one that is none; at the start of the
  word, at its end, or at either. -/
  | wordEdge (opens closes : Bool)
  | notWordEdge
  | sequence (first second : Regex)
  | choice (first second : Regex)
  | repeated (part : Regex) (least : Nat) (most : Option Nat)
  | group (number : Nat) (part : Regex)
  /-- The text of a group once more. -/
  | same (number : Nat)
  deriving Inhabited

namespace Regex

/-- What a group matched, from a position to another. -/
abbrev Captures := List (Nat × Nat × Nat)

/-- Whether a character of a word stands at a position. -/
def isWordAt (text : Array Char) (position : Nat) : Bool :=
  (text[position]?).any CharSet.wordChars.contains

/-- Whether a word has an edge of the given kind at a position. -/
def isEdge (text : Array Char) (opens closes : Bool) (position : Nat) : Bool :=
  let before := 0 < position && isWordAt text (position - 1)
  let after := isWordAt text position
  (opens && !before && after) || (closes && before && !after)

/-- The positions of two lists, each once and latest first. -/
def merge (first second : List Nat) : List Nat :=
  go (first.length + second.length) first second
where
  go : (fuel : Nat) → List Nat → List Nat → List Nat
    | 0, _, _ => []
    | _, [], second => second
    | _, first, [] => first
    | fuel + 1, a :: first, b :: second =>
      if a = b then a :: go fuel first second
      else if b < a then a :: go fuel first (b :: second)
      else b :: go fuel (a :: first) second

/-- The positions reached from some positions. -/
def mergeAll (reach : Nat → List Nat) (positions : List Nat) : List Nat :=
  positions.foldl (fun found position => merge found (reach position)) []

/-- The positions after some more rounds of a repetition, and those before that may
be the last. -/
def rounds (reach : Nat → List Nat) : (fuel : Nat) → (least : Nat) → (most : Option Nat) →
    (positions seen : List Nat) → List Nat
  | 0, _, _, _, seen => seen
  | fuel + 1, least, most, positions, seen =>
    if positions.isEmpty then seen
    else
      let next := mergeAll reach positions
      match least, most with
      | least + 1, most =>
        let most := most.map (· - 1)
        rounds reach fuel least most next (if least = 0 then next else seen)
      | 0, some 0 => seen
      | 0, most =>
        let fresh := next.filter fun position => !seen.contains position
        rounds reach fuel 0 (most.map (· - 1)) fresh (merge seen fresh)

/-- The positions where a match from a position may end, latest first. A group that
is to match once more matches what it has matched in `captures`. -/
def ends (text : Array Char) (captures : Captures) : Regex → Nat → List Nat
  | empty, position => [position]
  | one set, position => if (text[position]?).any set.contains then [position + 1] else []
  | textStart, position => if position = 0 then [position] else []
  | textEnd, position => if position = text.size then [position] else []
  | lineStart, position =>
    if position = 0 || text[position - 1]? = some '\n' then [position] else []
  | lineEnd, position =>
    if position = text.size || text[position]? = some '\n' then [position] else []
  | wordEdge opens closes, position => if isEdge text opens closes position then [position] else []
  | notWordEdge, position => if isEdge text true true position then [] else [position]
  | sequence first second, position =>
    mergeAll (ends text captures second) (ends text captures first position)
  | choice first second, position =>
    merge (ends text captures first position) (ends text captures second position)
  | repeated part least most, position =>
    rounds (ends text captures part) (text.size + least + 2) least most [position]
      (if least = 0 then [position] else [])
  | group _ part, position => ends text captures part position
  | same number, position =>
    match captures.lookup number with
    | none => []
    | some (first, last) =>
      let size := last - first
      if text.extract first last = text.extract position (position + size) then [position + size]
      else []

/-- What the groups match when the expression matches from a position to another. -/
def capture (text : Array Char) : Regex → (first last : Nat) → Captures → Captures
  | group number part, first, last, captures =>
    (number, first, last) :: capture text part first last captures
  | sequence left right, first, last, captures =>
    let middle := ((ends text captures left first).find? fun middle =>
      (ends text captures right middle).contains last).getD first
    capture text right middle last (capture text left first middle captures)
  | choice left right, first, last, captures =>
    if (ends text captures left first).contains last then capture text left first last captures
    else capture text right first last captures
  | repeated part least most, first, last, captures =>
    let rec walk : (fuel : Nat) → (least : Nat) → (most : Option Nat) → Nat → Captures → Captures
      | 0, _, _, _, captures => captures
      | fuel + 1, least, most, first, captures =>
        if first = last && least = 0 then captures
        else
          let least := least - 1
          let most := most.map (· - 1)
          let rest (middle : Nat) : List Nat :=
            rounds (ends text captures part) (text.size + least + 2) least most [middle]
              (if least = 0 then [middle] else [])
          match (ends text captures part first).find? fun middle =>
              (rest middle).contains last && (middle ≠ first || least = 0) with
          | some middle =>
            walk fuel least most middle (capture text part first middle captures)
          | none => captures
    walk (text.size + least + 1) least most first captures
  | _, _, _, captures => captures

/-! ## Back references -/

/-- Whether the expression asks for the text of a group once more. -/
def hasSame : Regex → Bool
  | same _ => true
  | sequence first second | choice first second => first.hasSame || second.hasSame
  | repeated part _ _ | group _ part => part.hasSame
  | _ => false

/-- The numbers of the groups in the expression. -/
def groupNumbers : Regex → List Nat
  | group number part => number :: part.groupNumbers
  | sequence first second | choice first second => first.groupNumbers ++ second.groupNumbers
  | repeated part _ _ => part.groupNumbers
  | _ => []

/-- The matches from a position that try the longest parts first, with what their
groups matched. -/
def trials (text : Array Char) : Regex → Nat → Captures → List (Nat × Captures)
  | sequence first second, position, captures =>
    (trials text first position captures).flatMap fun (middle, captures) =>
      trials text second middle captures
  | choice first second, position, captures =>
    trials text first position captures ++ trials text second position captures
  | group number part, position, captures =>
    (trials text part position captures).map fun (last, captures) =>
      (last, (number, position, last) :: captures)
  | repeated part least most, position, captures =>
    let rec walk : (fuel : Nat) → (least : Nat) → (most : Option Nat) → Nat → Captures →
        List (Nat × Captures)
      | 0, _, _, _, _ => []
      | fuel + 1, least, most, position, captures =>
        let further :=
          if most = some 0 then []
          else
            (trials text part position captures).flatMap fun (middle, captures) =>
              if middle = position then []
              else walk fuel (least - 1) (most.map (· - 1)) middle captures
        further ++ if least = 0 then [(position, captures)] else []
    walk (text.size + least + 1) least most position captures
  | other, position, captures => (ends text captures other position).map (·, captures)

/-- The positions where a match from a position may end, latest first. -/
def lasts (regex : Regex) (text : Array Char) (position : Nat) : List Nat :=
  if regex.hasSame then
    ((trials text regex position []).map (·.1)).mergeSort fun first second => second ≤ first
  else ends text [] regex position

/-! ## Searching -/

/-- A match in a text. -/
structure Match where
  first : Nat
  last : Nat
  groups : Captures

/-- The match that starts at a position. -/
def matchAt? (regex : Regex) (text : Array Char) (position : Nat) : Option Match :=
  if regex.hasSame then
    let found := trials text regex position []
    (found.foldl (fun best trial =>
      match best with
      | some (last, _) => if last < trial.1 then some trial else best
      | none => some trial) none).map fun (last, groups) => ⟨position, last, groups⟩
  else
    (ends text [] regex position).head?.map fun last =>
      ⟨position, last, capture text regex position last []⟩

/-- The first match from a position on. -/
def find? (regex : Regex) (text : Array Char) (position : Nat) : Option Match :=
  ((List.range (text.size + 1 - position)).map (· + position)).findSome? (regex.matchAt? text)

def isIn (regex : Regex) (text : Array Char) : Bool :=
  if regex.hasSame then (regex.find? text 0).isSome
  else (List.range (text.size + 1)).any fun position => !(ends text [] regex position).isEmpty

/-- The text that a group matched. -/
def Match.group (found : Match) (text : Array Char) (number : Nat) : List Char :=
  if number = 0 then (text.extract found.first found.last).toList
  else
    match found.groups.lookup number with
    | some (first, last) => (text.extract first last).toList
    | none => []

end Regex

end Overseer
