import Overseer.Pattern.Regex

/-!
# Reading regular expressions

There are two ways to write an expression. In the plain one, brackets, braces and
the signs of repetition and choice are special only after a backslash, in the
extended one only without.
-/

namespace Overseer.Regex

/-- How expressions are written. -/
structure Dialect where
  extended : Bool := false
  ignoresCase : Bool := false
  /-- Whether a letter after a backslash may stand for a control character. -/
  namesControls : Bool := false
  /-- Whether a letter after a backslash may stand for the digits. -/
  namesDigits : Bool := false
  /-- Whether a sign that belongs to nothing is allowed: one of repetition is passed over,
  and a closing bracket stands for itself. -/
  allowsLoose : Bool := false
  /-- Whether the signs for the start and the end mean those of a line. -/
  byLines : Bool := false
  /-- Whether a letter or digit after a backslash has no meaning but itself or a control
  character. -/
  plainLetters : Bool := false

namespace Dialect

/-- A special sign at the start of a text, without its backslash, and the rest. -/
def sign? (dialect : Dialect) (signs : List Char) : List Char → Option (Char × List Char)
  | '\\' :: c :: rest => if !dialect.extended && signs.contains c then some (c, rest) else none
  | c :: rest => if dialect.extended && signs.contains c then some (c, rest) else none
  | [] => none

def setOf (dialect : Dialect) (set : CharSet) : Regex :=
  one (if dialect.ignoresCase then set.withBothCases else set)

/-- What a character after a backslash stands for, where that is no sign. -/
def escaped (dialect : Dialect) (c : Char) : Regex :=
  let control :=
    if dialect.namesControls then
      match c with
      | 'n' => '\n'
      | 't' => '\t'
      | 'r' => '\r'
      | 'f' => '\x0c'
      | 'v' => '\x0b'
      | 'a' => '\x07'
      | _ => c
    else c
  if dialect.plainLetters then dialect.setOf (.single (if c = 'b' then '\x08' else control))
  else
    match c with
    | 'w' => one CharSet.wordChars
    | 'W' => one { CharSet.wordChars with negated := true }
    | 's' => one CharSet.blanks
    | 'S' => one { CharSet.blanks with negated := true }
    | 'b' => wordEdge true true
    | 'B' => notWordEdge
    | '<' => wordEdge true false
    | '>' => wordEdge false true
    | '\x60' => textStart
    | '\'' => textEnd
    | _ =>
      if dialect.namesDigits && c = 'd' then one ⟨[('0', '9')], false⟩
      else if dialect.namesDigits && c = 'D' then one ⟨[('0', '9')], true⟩
      else if '1' ≤ c && c ≤ '9' then same (c.toNat - '0'.toNat)
      else dialect.setOf (.single control)

/-- The bounds of a repetition and the rest, given what follows the opening brace. -/
def bounds? (dialect : Dialect) (text : List Char) : Option (Nat × Option Nat × List Char) := do
  let number (digits : List Char) : Nat :=
    digits.foldl (fun n c => n * 10 + (c.toNat - '0'.toNat)) 0
  let (least, rest) := text.span Char.isDigit
  let (most, rest) ←
    match rest with
    | ',' :: rest =>
      let (most, rest) := rest.span Char.isDigit
      if most.isEmpty && least.isEmpty then none
      else some (if most.isEmpty then none else some (number most), rest)
    | _ => if least.isEmpty then none else some (some (number least), rest)
  match dialect.sign? ['\x7d'] rest with
  | some (_, rest) => some (number least, most, rest)
  | none => none

/-- The most that a bound may be. -/
def greatestBound : Nat := 32767

def areBounds (least : Nat) (most : Option Nat) : Bool :=
  least ≤ greatestBound && most.all fun most => least ≤ most && most ≤ greatestBound

/-- Whether an expression may end here, as a whole or within brackets. -/
def atEnd (dialect : Dialect) (depth : Nat) (text : List Char) : Bool :=
  text.isEmpty || (dialect.sign? ['|'] text).isSome ||
    (depth ≠ 0 && (dialect.sign? [')'] text).isSome)

/-- Adds the repetitions that follow a part. -/
def repetitions (dialect : Dialect) (fuel : Nat) (part : Regex) (text : List Char) :
    Option (Regex × List Char) :=
  match fuel with
  | 0 => none
  | fuel + 1 =>
    match text with
    | '*' :: rest => repetitions dialect fuel (repeated part 0 none) rest
    | _ =>
      match dialect.sign? ['+', '?', '\x7b'] text with
      | some ('+', rest) => repetitions dialect fuel (repeated part 1 none) rest
      | some ('?', rest) => repetitions dialect fuel (repeated part 0 (some 1)) rest
      | some (_, rest) =>
        match dialect.bounds? rest with
        | some (least, most, rest) =>
          if areBounds least most then repetitions dialect fuel (repeated part least most) rest
          else none
        | none => if dialect.extended then some (part, text) else none
      | none => some (part, text)

/-- Whether a sign stands here that belongs to nothing. In a plain expression it stands for
itself where it may. -/
def isLoose (dialect : Dialect) (opens : Bool) : List Char → Bool
  | c :: _ =>
    dialect.extended && (c = ')' || (opens && ['*', '+', '?', '\x7b'].contains c))
  | [] => false

/-- What comes of a sign that belongs to nothing: itself or nothing, and the rest. -/
def loose (dialect : Dialect) : List Char → Option Char × List Char
  | '\x7b' :: rest =>
    match dialect.bounds? rest with
    | some (_, _, rest) => (none, rest)
    | none => (some '\x7b', rest)
  | c :: rest => (if c = ')' then some c else none, rest)
  | [] => (none, [])

mutual

/-- The choices up to the end of the text or the closing bracket. -/
def choices (dialect : Dialect) : (fuel : Nat) → (depth groups : Nat) → List Char →
    Option (Regex × Nat × List Char)
  | 0, _, _, _ => none
  | fuel + 1, depth, groups, text => do
    let (first, groups, rest) ← parts dialect fuel true depth groups text
    match dialect.sign? ['|'] rest with
    | some (_, rest) =>
      let (second, groups, rest) ← choices dialect fuel depth groups rest
      some (choice first second, groups, rest)
    | none => some (first, groups, rest)

/-- The parts of one choice; `opens` says whether none was read yet. -/
def parts (dialect : Dialect) : (fuel : Nat) → (opens : Bool) → (depth groups : Nat) →
    List Char → Option (Regex × Nat × List Char)
  | 0, _, _, _, _ => none
  | fuel + 1, opens, depth, groups, text =>
    if dialect.atEnd depth text then some (empty, groups, text)
    else
      let join (part : Regex) (groups : Nat) (rest : List Char) :
          Option (Regex × Nat × List Char) := do
        let (others, groups, rest) ← parts dialect fuel false depth groups rest
        some (sequence part others, groups, rest)
      let close (part : Regex) (groups : Nat) (rest : List Char) :
          Option (Regex × Nat × List Char) := do
        let (part, rest) ← dialect.repetitions (rest.length + 1) part rest
        join part groups rest
      if dialect.isLoose opens text then
        if dialect.allowsLoose then
          match dialect.loose text with
          | (some c, rest) => close (one (.single c)) groups rest
          | (none, rest) => parts dialect fuel true depth groups rest
        else none
      else
        match dialect.sign? ['('] text with
        | some (_, rest) => do
          let number := groups + 1
          let (inner, groups, rest) ← choices dialect fuel (depth + 1) number rest
          let (_, rest) ← dialect.sign? [')'] rest
          close (group number inner) groups rest
        | none =>
          match text with
          | '^' :: rest =>
            if dialect.extended || opens then do
              let (others, groups, rest) ← parts dialect fuel true depth groups rest
              some (sequence (if dialect.byLines then lineStart else textStart) others, groups, rest)
            else close (one (.single '^')) groups rest
          | '$' :: rest =>
            if dialect.extended || dialect.atEnd depth rest then
              join (if dialect.byLines then lineEnd else textEnd) groups rest
            else close (one (.single '$')) groups rest
          | '*' :: rest => if opens then close (one (.single '*')) groups rest else none
          | '.' :: rest => close (one .all) groups rest
          | '[' :: rest => do
            let (set, rest) ← CharSet.read? ['^'] rest
            close (dialect.setOf set) groups rest
          | ['\\'] => none
          | '\\' :: c :: rest =>
            if !dialect.extended && c = ')' then none
            else if !dialect.plainLetters && c.isDigit && groups < c.toNat - '0'.toNat then none
            else close (dialect.escaped c) groups rest
          | c :: rest => close (dialect.setOf (.single c)) groups rest
          | [] => some (empty, groups, [])

end

end Dialect

/-- The expression that a text writes; none if it writes none. -/
def read? (dialect : Dialect) (text : List Char) : Option Regex :=
  match dialect.choices (3 * text.length + 4) 0 0 text with
  | some (regex, _, []) => some regex
  | _ => none

/-- The expression for a text that stands for itself. -/
def ofPlain (ignoresCase : Bool) (text : List Char) : Regex :=
  text.foldr (fun c rest =>
    sequence (one (if ignoresCase then (CharSet.single c).withBothCases else .single c)) rest)
    empty

end Overseer.Regex
