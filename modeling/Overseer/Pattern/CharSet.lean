/-!
# Character sets

A bracketed set of a pattern: characters, ranges of them and named classes, or all
characters but those.
-/

namespace Overseer

/-- The characters in some ranges, or those outside of all of them. -/
structure CharSet where
  ranges : List (Char × Char) := []
  negated : Bool := false
  deriving DecidableEq, Inhabited

namespace CharSet

def single (c : Char) : CharSet := ⟨[(c, c)], false⟩

/-- All characters. -/
def all : CharSet := ⟨[], true⟩

def contains (set : CharSet) (c : Char) : Bool :=
  (set.ranges.any fun (first, last) => first ≤ c && c ≤ last) != set.negated

/-- The set together with the other case of each letter in it. -/
def withBothCases (set : CharSet) : CharSet :=
  let letters (first last : Char) : List (Char × Char) :=
    (List.range 26).flatMap fun i =>
      let small := Char.ofNat ('a'.toNat + i)
      let large := Char.ofNat ('A'.toNat + i)
      (if first ≤ small && small ≤ last then [(large, large)] else []) ++
        (if first ≤ large && large ≤ last then [(small, small)] else [])
  { set with ranges := set.ranges ++ set.ranges.flatMap fun (first, last) => letters first last }

/-- The ranges of a named class. -/
def classRanges? (name : List Char) : Option (List (Char × Char)) :=
  match String.ofList name with
  | "alpha" => some [('A', 'Z'), ('a', 'z')]
  | "digit" => some [('0', '9')]
  | "alnum" => some [('0', '9'), ('A', 'Z'), ('a', 'z')]
  | "upper" => some [('A', 'Z')]
  | "lower" => some [('a', 'z')]
  | "space" => some [('\t', '\r'), (' ', ' ')]
  | "blank" => some [('\t', '\t'), (' ', ' ')]
  | "punct" => some [('!', '/'), (':', '@'), ('[', '\x60'), ('\x7b', '~')]
  | "print" => some [(' ', '~')]
  | "graph" => some [('!', '~')]
  | "cntrl" => some [('\x00', '\x1f'), ('\x7f', '\x7f')]
  | "xdigit" => some [('0', '9'), ('A', 'F'), ('a', 'f')]
  | _ => none

/-- The letters, digits and the underscore. -/
def wordChars : CharSet := ⟨[('0', '9'), ('A', 'Z'), ('a', 'z'), ('_', '_')], false⟩

def blanks : CharSet := ⟨[('\t', '\r'), (' ', ' ')], false⟩

/-- The name of a class and the text after it, given what follows its opening
bracket and colon. -/
def className? (text : List Char) : Option (List Char × List Char) :=
  let (name, rest) := text.span Char.isAlpha
  match rest with
  | ':' :: ']' :: rest => some (name, rest)
  | _ => none

/-- Reads the members of a set up to its closing bracket; `first` says whether none
was read yet. None if there is no closing bracket or a range goes backwards. -/
def members? : (fuel : Nat) → (first : Bool) → List Char → Option (List (Char × Char) × List Char)
  | 0, _, _ => none
  | fuel + 1, first, text =>
    let join (ranges : List (Char × Char)) (rest : List Char) :=
      (members? fuel false rest).map fun (others, rest) => (ranges ++ others, rest)
    let single (c : Char) (rest : List Char) :=
      match rest with
      | '-' :: ']' :: _ => join [(c, c)] rest
      | '-' :: last :: rest => if last < c then none else join [(c, last)] rest
      | _ => join [(c, c)] rest
    match text with
    | [] => none
    | ']' :: rest => if first then single ']' rest else some ([], rest)
    | '[' :: ':' :: rest =>
      match className? rest with
      | some (name, rest) => (classRanges? name).bind fun ranges => join ranges rest
      | none => single '[' (':' :: rest)
    | '[' :: '.' :: c :: '.' :: ']' :: rest => single c rest
    | '[' :: '=' :: c :: '=' :: ']' :: rest => single c rest
    | c :: rest => single c rest

/-- Reads a set after its opening bracket, with the given signs for all but the
members. -/
def read? (signs : List Char) (text : List Char) : Option (CharSet × List Char) :=
  let (negated, body) :=
    match text with
    | c :: rest => if signs.contains c then (true, rest) else (false, text)
    | [] => (false, [])
  (members? (body.length + 1) true body).map fun (ranges, rest) => (⟨ranges, negated⟩, rest)

end CharSet

end Overseer
