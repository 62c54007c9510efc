import Overseer.Pattern.CharSet

/-!
# Globs

The patterns that file names and the branches of a `case` are matched with: a
question mark stands for one character, a star for any text, brackets for one of
several characters. What was quoted stands for itself.
-/

namespace Overseer

inductive GlobItem
  | one (set : CharSet)
  | anyText
  deriving DecidableEq

/-- A pattern, item by item. -/
abbrev Glob := List GlobItem

/-- A character of a pattern, and whether it was quoted. -/
abbrev MarkedChar := Char × Bool

namespace Glob

/-- The length of the set that begins after an opening bracket, its closing bracket
included, and the set. Quoted characters are never special in it. -/
def set? (text : List MarkedChar) : Option (CharSet × List MarkedChar) :=
  let (negated, body) :=
    match text with
    | ('!', false) :: rest => (true, rest)
    | _ => (false, text)
  let rec members : (fuel : Nat) → (first : Bool) → List MarkedChar →
      Option (List (Char × Char) × List MarkedChar)
    | 0, _, _ => none
    | fuel + 1, first, text =>
      let join (ranges : List (Char × Char)) (rest : List MarkedChar) :=
        (members fuel false rest).map fun (others, rest) => (ranges ++ others, rest)
      let single (c : Char) (rest : List MarkedChar) :=
        match rest with
        | ('-', false) :: (']', false) :: _ => join [(c, c)] rest
        | ('-', false) :: (last, _) :: rest => join [(c, last)] rest
        | _ => join [(c, c)] rest
      match text with
      | [] => none
      | (']', false) :: rest => if first then single ']' rest else some ([], rest)
      | ('[', false) :: (':', false) :: rest =>
        let name := (rest.takeWhile fun (c, quoted) => c.isAlpha && !quoted).map (·.1)
        match rest.drop name.length with
        | (':', false) :: (']', false) :: others =>
          match CharSet.classRanges? name with
          | some ranges => join ranges others
          | none => single '[' ((':', false) :: rest)
        | _ => single '[' ((':', false) :: rest)
      | (c, _) :: rest => single c rest
  (members (body.length + 1) true body).map fun (ranges, rest) => (⟨ranges, negated⟩, rest)

/-- The pattern of a text. -/
def ofChars (text : List MarkedChar) : Glob :=
  go (text.length + 1) text
where
  go : (fuel : Nat) → List MarkedChar → Glob
    | 0, _ => []
    | _, [] => []
    | fuel + 1, (c, quoted) :: rest =>
      if quoted then .one (.single c) :: go fuel rest
      else if c = '*' then .anyText :: go fuel rest
      else if c = '?' then .one .all :: go fuel rest
      else if c = '[' then
        match set? rest with
        | some (set, rest) => .one set :: go fuel rest
        | none => .one (.single c) :: go fuel rest
      else .one (.single c) :: go fuel rest

/-- Whether a text is special in parts, so that it may match another one. -/
def isActive (text : List MarkedChar) : Bool :=
  text.any fun (c, quoted) => !quoted && (c = '*' || c = '?' || c = '[')

def covers : Glob → List Char → Bool
  | [], text => text.isEmpty
  | .one set :: rest, c :: text => set.contains c && covers rest text
  | .one _ :: _, [] => false
  | .anyText :: rest, [] => covers rest []
  | .anyText :: rest, c :: text => covers rest (c :: text) || covers (.anyText :: rest) text
  termination_by glob text => glob.length + text.length

/-- The shortest or longest prefix of a text that a pattern covers. -/
def prefix? (glob : Glob) (longest : Bool) (text : List Char) : Option (List Char) :=
  let lengths := List.range (text.length + 1)
  ((if longest then lengths.reverse else lengths).find? fun n => covers glob (text.take n)).map
    text.take

/-- The shortest or longest suffix of a text that a pattern covers. -/
def suffix? (glob : Glob) (longest : Bool) (text : List Char) : Option (List Char) :=
  let lengths := List.range (text.length + 1)
  ((if longest then lengths else lengths.reverse).find? fun n => covers glob (text.drop n)).map
    text.drop

end Glob

end Overseer
