import Overseer.Number.Leading
import Overseer.Pattern.Regex
import Overseer.Text.Octets

/-!
# Separators

What records and fields are divided by, and how texts are divided and changed where an
expression matches.
-/

namespace Overseer.Records

/-- What divides a text. -/
inductive Separator
  /-- Blanks, which also surround the parts. -/
  | blanks
  /-- Nothing: each character is a part. -/
  | nothing
  | char (c : Char)
  /-- Line ends, more than one in a row. -/
  | emptyLines
  | regex (regex : Regex)

/-- The matches in a text one after another, as the positions where they begin and end. A
match of nothing does not directly follow another match. -/
def occurrences (regex : Regex) (text : Array Char) : List (Nat × Nat) :=
  go (text.size + 2) 0 none
where
  go : (fuel : Nat) → (position : Nat) → (after : Option Nat) → List (Nat × Nat)
    | 0, _, _ => []
    | fuel + 1, position, after =>
      match regex.find? text position with
      | none => []
      | some found =>
        if found.first = found.last then
          if after = some found.first then go fuel (position + 1) none
          else (found.first, found.last) :: go fuel (found.last + 1) none
        else (found.first, found.last) :: go fuel found.last (some found.last)

namespace Separator

/-- The parts of a text between some places. -/
def between (text : Array Char) : (start : Nat) → List (Nat × Nat) → List Octets
  | start, [] => [String.ofList (text.extract start text.size).toList]
  | start, (first, last) :: rest =>
    String.ofList (text.extract start first).toList :: between text last rest

/-- Words with blanks around them. -/
def words (text : List Char) : List Octets :=
  (go text []).map String.ofList
where
  isBlank (c : Char) : Bool := c = ' ' || c = '\t' || c = '\n'
  go : List Char → (word : List Char) → List (List Char)
    | [], word => if word.isEmpty then [] else [word.reverse]
    | c :: rest, word =>
      if isBlank c then
        if word.isEmpty then go rest [] else word.reverse :: go rest []
      else go rest (c :: word)

/-- The parts of a text; one that is empty has none. -/
def parts (separator : Separator) (text : Octets) : List Octets :=
  if text.isEmpty then []
  else
    match separator with
    | blanks => words text.toList
    | nothing => text.toList.map String.singleton
    | char c => text.splitOn (String.singleton c)
    | emptyLines => text.splitOn "\n"
    | regex meant =>
      let chars := text.toList.toArray
      between chars 0 ((occurrences meant chars).filter fun found => found.1 < found.2)

end Separator

/-! ## Records -/

/-- A stream that records are taken from. -/
structure RecordReader where
  /-- The number of the stream. -/
  number : Nat
  /-- What was read and not taken. -/
  text : List Char := []
  isAtEnd : Bool := false

/-- What taking a record comes to. -/
inductive Taking
  /-- More must be read before. -/
  | tooShort
  | finished
  | record (text : Octets) (reader : RecordReader)

namespace RecordReader

/-- The text up to an empty line, and what follows the empty lines. -/
def paragraph : List Char → List Char × List Char
  | '\n' :: '\n' :: rest => ([], rest.dropWhile (· = '\n'))
  | ['\n'] | [] => ([], [])
  | c :: rest =>
    let (inner, rest) := paragraph rest
    (c :: inner, rest)

/-- Takes a record from what was read. -/
def take (reader : RecordReader) (separator : Separator) : Taking :=
  let last : Taking :=
    if !reader.isAtEnd then .tooShort
    else if reader.text.isEmpty then .finished
    else .record (String.ofList reader.text) { reader with text := [] }
  match separator with
  | .char c =>
    match reader.text.span (· ≠ c) with
    | (_, []) => last
    | (text, _ :: rest) => .record (String.ofList text) { reader with text := rest }
  | .regex regex =>
    if !reader.isAtEnd then .tooShort
    else
      let chars := reader.text.toArray
      match (occurrences regex chars).find? fun found => found.1 < found.2 with
      | none => last
      | some (first, last) =>
        .record (String.ofList (chars.extract 0 first).toList)
          { reader with text := reader.text.drop last }
  | _ =>
    if !reader.isAtEnd then .tooShort
    else
      match reader.text.dropWhile (· = '\n') with
      | [] => .finished
      | text =>
        let (text, rest) := paragraph text
        .record (String.ofList text) { reader with text := rest }

end RecordReader

end Overseer.Records
