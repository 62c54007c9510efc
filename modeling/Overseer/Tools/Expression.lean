import Overseer.Number.Decimal
import Overseer.Pattern.RegexReader
import Overseer.Tools.Basic

/-!
# Expressions

`expr` works out an expression each of whose signs and values is an argument. The part of a
choice that does not matter is read, and not worked out.
-/

namespace Overseer.Tool

/-- What an expression comes to. -/
inductive ExprValue
  | number (value : Int)
  | text (value : Octets)

/-- Why an expression comes to nothing. -/
inductive ExprFault
  | unexpected (word : Octets)
  | unexpectedClosing
  | missingAfter (word : Octets)
  | expectedClosing (before : Octets) (word : Option Octets)
  | notNumber
  | divisionByZero
  | badPattern

namespace ExprFault

def text : ExprFault → Octets
  | unexpected word => "syntax error: unexpected argument " ++ quote word
  | unexpectedClosing => "syntax error: unexpected ')'"
  | missingAfter word => "syntax error: missing argument after " ++ quote word
  | expectedClosing before none => "syntax error: expecting ')' after " ++ quote before
  | expectedClosing _ (some word) => "syntax error: expecting ')' instead of " ++ quote word
  | notNumber => "non-integer argument"
  | divisionByZero => "division by zero"
  | badPattern => "Invalid regular expression"

end ExprFault

namespace ExprValue

def toText : ExprValue → Octets
  | number value => integerText value
  | text value => value

/-- The number that a value is or writes; a plus sign is not part of one. -/
def number? : ExprValue → Option Int
  | number value => some value
  | text value => if value.startsWith "+" then none else integerOf? value.toList

/-- Whether a value counts as no: zero or nothing. -/
def isNull : ExprValue → Bool
  | number value => value = 0
  | text value =>
    let digits :=
      match value.toList with
      | '-' :: digits => digits
      | digits => digits
    value.isEmpty || (!digits.isEmpty && digits.all (· = '0'))

def ofBool (holds : Bool) : ExprValue := number (if holds then 1 else 0)

def compare (sign : Octets) (left right : ExprValue) : ExprValue :=
  let order :=
    match left.number?, right.number? with
    | some left, some right => Ord.compare left right
    | _, _ => Ord.compare left.toText right.toText
  ofBool (match sign with
    | "<" => order = .lt
    | "<=" => order ≠ .gt
    | "=" | "==" => order = .eq
    | "!=" => order ≠ .eq
    | ">=" => order ≠ .lt
    | _ => order = .gt)

def calculate (sign : Octets) (left right : ExprValue) : Except ExprFault ExprValue :=
  match left.number?, right.number? with
  | some left, some right =>
    match sign with
    | "+" => .ok (number (left + right))
    | "-" => .ok (number (left - right))
    | "*" => .ok (number (left * right))
    | "/" => if right = 0 then .error .divisionByZero else .ok (number (left.tdiv right))
    | _ => if right = 0 then .error .divisionByZero else .ok (number (left.tmod right))
  | _, _ => .error .notNumber

/-- Matches the start of a text with a pattern: gives what the first group matched, or the
length of the match if there is no group. -/
def matchStart (subject pattern : ExprValue) : Except ExprFault ExprValue :=
  match Regex.read? {} pattern.toText.toList with
  | none => .error .badPattern
  | some regex =>
    let chars := subject.toText.toList.toArray
    let hasGroup := (regex.groupNumbers).contains 1
    match regex.matchAt? chars 0 with
    | some found =>
      .ok (if hasGroup then text (String.ofList (found.group chars 1)) else number found.last)
    | none => .ok (if hasGroup then text "" else number 0)

def indexOf (subject chars : ExprValue) : ExprValue :=
  match subject.toText.toList.findIdx? chars.toText.toList.contains with
  | some place => number (place + 1)
  | none => number 0

def part (subject position length : ExprValue) : ExprValue :=
  match position.number?, length.number? with
  | some (.ofNat (position + 1)), some (.ofNat length) =>
    text ((subject.toText.drop position).take length).toString
  | _, _ => text ""

end ExprValue

/-- What is still to be read of an expression, and the word before it. -/
structure ExprWords where
  last : Octets := ""
  rest : List Octets

namespace ExprWords

/-- The next word. -/
def next (words : ExprWords) : Except ExprFault (Octets × ExprWords) :=
  match words.rest with
  | word :: rest => .ok (word, ⟨word, rest⟩)
  | [] => .error (.missingAfter words.last)

/-- A sign out of some, if it comes next. -/
def sign? (words : ExprWords) (signs : List Octets) : Option (Octets × ExprWords) :=
  match words.rest with
  | word :: rest => if signs.contains word then some (word, ⟨word, rest⟩) else none
  | [] => none

/-- The signs of each level, those that bind least first. -/
def levels : List (List Octets) :=
  [["|"], ["&"], ["<", "<=", "=", "==", "!=", ">=", ">"], ["+", "-"], ["*", "/", "%"], [":"]]

/-- Puts two values together. -/
def combine (sign : Octets) (left right : ExprValue) : Except ExprFault ExprValue :=
  match sign with
  | "|" => .ok (if !left.isNull then left else if right.isNull then .number 0 else right)
  | "&" => .ok (if left.isNull || right.isNull then .number 0 else left)
  | "+" | "-" | "*" | "/" | "%" => ExprValue.calculate sign left right
  | ":" => ExprValue.matchStart left right
  | _ => .ok (.compare sign left right)

/-- Whether the right side of a sign matters. -/
def matters (sign : Octets) (left : ExprValue) : Bool :=
  match sign with
  | "|" => left.isNull
  | "&" => !left.isNull
  | _ => true

mutual

/-- The value of an expression whose signs are of some levels; `isMeant` says whether it is
worked out. -/
def value : (fuel : Nat) → (isMeant : Bool) → List (List Octets) → ExprWords →
    Except ExprFault (ExprValue × ExprWords)
  | 0, _, _, words => .error (.missingAfter words.last)
  | fuel + 1, isMeant, [], words => operand fuel isMeant words
  | fuel + 1, isMeant, signs :: inner, words => do
    let (left, words) ← value fuel isMeant inner words
    further fuel isMeant signs inner left words

/-- Goes on with the signs of a level after a value. -/
def further : (fuel : Nat) → (isMeant : Bool) → List Octets → List (List Octets) → ExprValue →
    ExprWords → Except ExprFault (ExprValue × ExprWords)
  | 0, _, _, _, _, words => .error (.missingAfter words.last)
  | fuel + 1, isMeant, signs, inner, left, words =>
    match words.sign? signs with
    | none => .ok (left, words)
    | some (sign, words) => do
      let (right, words) ← value fuel (isMeant && matters sign left) inner words
      let left ← if isMeant then combine sign left right else .ok left
      further fuel isMeant signs inner left words

/-- A value that has no signs on the outside. -/
def operand : (fuel : Nat) → (isMeant : Bool) → ExprWords →
    Except ExprFault (ExprValue × ExprWords)
  | 0, _, words => .error (.missingAfter words.last)
  | fuel + 1, isMeant, words => do
    let (word, words) ← words.next
    match word with
    | "(" => do
      let (inner, words) ← value fuel isMeant levels words
      match words.rest with
      | ")" :: rest => return (inner, ⟨")", rest⟩)
      | rest => .error (.expectedClosing words.last rest.head?)
    | ")" => .error .unexpectedClosing
    | "+" => do
      let (word, words) ← words.next
      return (.text word, words)
    | "length" => do
      let (subject, words) ← operand fuel isMeant words
      return (.number subject.toText.length, words)
    | "match" => do
      let (subject, words) ← operand fuel isMeant words
      let (pattern, words) ← operand fuel isMeant words
      return (← if isMeant then ExprValue.matchStart subject pattern else .ok subject, words)
    | "index" => do
      let (subject, words) ← operand fuel isMeant words
      let (chars, words) ← operand fuel isMeant words
      return (.indexOf subject chars, words)
    | "substr" => do
      let (subject, words) ← operand fuel isMeant words
      let (position, words) ← operand fuel isMeant words
      let (length, words) ← operand fuel isMeant words
      return (.part subject position length, words)
    | _ => return (.text word, words)

end

/-- The value of an expression as a whole. -/
def evaluate (words : List Octets) : Except ExprFault ExprValue := do
  let (result, left) ← value (16 * words.length + 16) true levels ⟨"", words⟩
  match left.rest with
  | [] => return result
  | word :: _ => .error (.unexpected word)

end ExprWords

def expr : Tool := fun invocation => do
  let words :=
    match invocation.arguments with
    | "--" :: words => words
    | words => words
  if invocation.arguments.length = 1 then
    if ["--help", "--version"].contains (invocation.arguments.headD "") then
      let _ ← parse invocation [] 2 true
  if words.isEmpty then missingOperand invocation 2
  match ExprWords.evaluate words with
  | .error fault => fail invocation 2 fault.text
  | .ok value => do
    put invocation (value.toText ++ "\n")
    return if value.isNull then 1 else 0

end Overseer.Tool
