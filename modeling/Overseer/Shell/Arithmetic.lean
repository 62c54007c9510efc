import Overseer.Number.Decimal
import Overseer.Shell.Source

/-!
# Shell arithmetic

The value of an arithmetic expression in a command line: integers and variables,
joined by operators that bind as usual, with assignments. Truth values are 0 and 1,
and all values wrap to 64 bits. A part that does not count for the value, such as the
second operand of a conjunction whose first is zero, changes nothing.
-/

namespace Overseer.Shell

namespace Arithmetic

inductive Cause
  | expectsPrimary
  | expectsEnd
  | expectsBracket
  | expectsColon
  | divisionByZero
  /-- The value of a variable is no number. -/
  | notNumber (text : Octets)
  /-- A variable is not set although it has to be. -/
  | notSet (name : Octets)

inductive Token
  | number (value : Int)
  | named (name : Octets)
  | operator (text : Octets)
  /-- A character that begins none of the others. -/
  | stray

/-! ## Numbers -/

/-- A value as 64 bits hold it. -/
def wrap (value : Int) : Int := value.bmod (powerOfTwo 64)

def digitValue (c : Char) : Nat :=
  if c.isDigit then c.toNat - '0'.toNat
  else if 'a' ≤ c ∧ c ≤ 'z' then c.toNat - 'a'.toNat + 10
  else if 'A' ≤ c ∧ c ≤ 'Z' then c.toNat - 'A'.toNat + 10
  else 36

/-- The number at the start of a text, hexadecimal after `0x`, octal after `0`, or else
decimal, and the rest. -/
def leadingNumber (text : List Char) : Nat × List Char :=
  let digits (base : Nat) (text : List Char) : Nat × List Char :=
    let (digits, rest) := text.span fun c => digitValue c < base
    (digits.foldl (fun value c => value * base + digitValue c) 0, rest)
  match text with
  | '0' :: x :: c :: rest =>
    if (x = 'x' || x = 'X') && digitValue c < 16 then digits 16 (c :: rest)
    else digits 8 (x :: c :: rest)
  | '0' :: rest => digits 8 rest
  | _ => digits 10 text

/-- The largest number that 64 bits hold. -/
def greatest : Int := powerOfTwo 63 - 1

/-- The value of a variable's text; none if that is no number. -/
def numeral? (text : Octets) : Option Int :=
  let (negative, rest) :=
    match text.toList.dropWhile Char.isWhitespace with
    | '-' :: rest => (true, rest)
    | '+' :: rest => (false, rest)
    | rest => (false, rest)
  if (text.toList.all Char.isWhitespace) then some 0
  else
    match rest with
    | c :: _ =>
      let (size, rest) := leadingNumber rest
      let value : Int := if negative then -size else size
      if c.isDigit && rest.all Char.isWhitespace && -greatest - 1 ≤ value && value ≤ greatest then
        some value
      else none
    | [] => none

/-! ## Tokens -/

/-- The operators, longer ones before those that they start with. -/
def operators : List Octets :=
  ["<<=", ">>=", "||", "&&", "==", "!=", "<=", ">=", "<<", ">>", "+=", "-=", "*=", "/=", "%=",
   "&=", "^=", "|=", "<", ">", "+", "-", "*", "/", "%", "!", "~", "(", ")", "&", "^", "|", "?",
   ":", "="]

def tokens : (fuel : Nat) → List Char → List Token
  | 0, _ => []
  | fuel + 1, text =>
    match text.dropWhile Char.isWhitespace with
    | [] => []
    | c :: rest =>
      if c.isDigit then
        let (value, rest) := leadingNumber (c :: rest)
        .number (min value greatest) :: tokens fuel rest
      else if isNameStart c then
        let (name, rest) := (c :: rest).span isNameChar
        .named (String.ofList name) :: tokens fuel rest
      else
        match operators.find? fun text => text.toList.isPrefixOf (c :: rest) with
        | some text => .operator text :: tokens fuel ((c :: rest).drop text.length)
        | none => [.stray]

/-! ## Operators -/

def truth (holds : Bool) : Int := if holds then 1 else 0

/-- The value of an operation on two operands. -/
def operate (operator : Octets) (a b : Int) : Except Cause Int :=
  let bits (operation : Nat → Nat → Nat) : Int :=
    operation (a.emod (powerOfTwo 64)).toNat (b.emod (powerOfTwo 64)).toNat
  let shift := (b.emod 64).toNat
  match operator with
  | "==" => .ok (truth (a = b))
  | "!=" => .ok (truth (a ≠ b))
  | "<=" => .ok (truth (a ≤ b))
  | ">=" => .ok (truth (b ≤ a))
  | "<" => .ok (truth (a < b))
  | ">" => .ok (truth (b < a))
  | "+" => .ok (wrap (a + b))
  | "-" => .ok (wrap (a - b))
  | "*" => .ok (wrap (a * b))
  | "/" => if b = 0 then .error .divisionByZero else .ok (wrap (a.tdiv b))
  | "%" => if b = 0 then .error .divisionByZero else .ok (wrap (a.tmod b))
  | "<<" => .ok (wrap (a * powerOfTwo shift))
  | ">>" => .ok (a.fdiv (powerOfTwo shift))
  | "&" => .ok (wrap (bits Nat.land))
  | "^" => .ok (wrap (bits Nat.xor))
  | "|" => .ok (wrap (bits Nat.lor))
  | _ => .error .expectsEnd

/-- The operators between two operands other than the logical ones, those that bind
least first. -/
def levels : List (List Octets) :=
  [["|"], ["^"], ["&"], ["==", "!="], ["<=", ">=", "<", ">"], ["<<", ">>"], ["+", "-"],
   ["*", "/", "%"]]

/-- The operator that an assignment joins the old value with, none for a plain one. -/
def assignment? (text : Octets) : Option (Option Octets) :=
  if text = "=" then some none
  else if ["==", "!=", "<=", ">="].contains text || !text.endsWith "=" then none
  else some (some (text.dropEnd 1).toString)

/-! ## Evaluation -/

/-- What is left of an expression, and the variables as they are by now. -/
structure State where
  tokens : List Token
  lookup : Octets → Except Cause Octets
  assigned : List (Octets × Int) := []

abbrev Evaluation := StateT State (Except Cause)

def next? : Evaluation (Option Token) := do return (← get).tokens.head?

def skip : Evaluation Unit := modify fun state => { state with tokens := state.tokens.drop 1 }

def value (name : Octets) : Evaluation Int := do
  let state ← get
  match state.assigned.lookup name with
  | some value => return value
  | none => do
    let text ← state.lookup name
    match numeral? text with
    | some value => return value
    | none => throw (.notNumber text)

def assign (name : Octets) (value : Int) : Evaluation Unit :=
  modify fun state => { state with assigned := (name, value) :: state.assigned }

mutual

/-- An expression with assignments. A part that does not count is only read. -/
def whole : (fuel : Nat) → (counts : Bool) → Evaluation Int
  | 0, _ => throw .expectsPrimary
  | fuel + 1, counts => do
    match (← get).tokens with
    | .named name :: .operator text :: _ =>
      match assignment? text with
      | none => conditional fuel counts
      | some operator => do
        skip
        skip
        let operand ← whole fuel counts
        if !counts then return operand
        let result ←
          match operator with
          | none => pure operand
          | some operator => do operate operator (← value name) operand
        assign name result
        return result
    | _ => conditional fuel counts

def conditional : (fuel : Nat) → (counts : Bool) → Evaluation Int
  | 0, _ => throw .expectsPrimary
  | fuel + 1, counts => do
    let test ← disjunction fuel counts
    match ← next? with
    | some (.operator "?") => do
      skip
      let yes ← whole fuel (counts && test ≠ 0)
      match ← next? with
      | some (.operator ":") => do
        skip
        let no ← conditional fuel (counts && test = 0)
        return if test ≠ 0 then yes else no
      | _ => throw .expectsColon
    | _ => return test

def disjunction : (fuel : Nat) → (counts : Bool) → Evaluation Int
  | 0, _ => throw .expectsPrimary
  | fuel + 1, counts => do
    let first ← conjunction fuel counts
    match ← next? with
    | some (.operator "||") => do
      skip
      let second ← disjunction fuel (counts && first = 0)
      return truth (first ≠ 0 || second ≠ 0)
    | _ => return first

def conjunction : (fuel : Nat) → (counts : Bool) → Evaluation Int
  | 0, _ => throw .expectsPrimary
  | fuel + 1, counts => do
    let first ← joined fuel counts levels
    match ← next? with
    | some (.operator "&&") => do
      skip
      let second ← conjunction fuel (counts && first ≠ 0)
      return truth (first ≠ 0 && second ≠ 0)
    | _ => return first

/-- Operands joined by operators of the given levels. -/
def joined : (fuel : Nat) → (counts : Bool) → List (List Octets) → Evaluation Int
  | 0, _, _ => throw .expectsPrimary
  | fuel + 1, counts, [] => operand fuel counts
  | fuel + 1, counts, level :: tighter => do
    joinedRest fuel counts level tighter (← joined fuel counts tighter)

def joinedRest : (fuel : Nat) → (counts : Bool) → List Octets → List (List Octets) → Int →
    Evaluation Int
  | 0, _, _, _, _ => throw .expectsPrimary
  | fuel + 1, counts, level, tighter, first => do
    match ← next? with
    | some (.operator text) =>
      if level.contains text then do
        skip
        let second ← joined fuel counts tighter
        let result ← if counts then operate text first second else pure second
        joinedRest fuel counts level tighter result
      else return first
    | _ => return first

def operand : (fuel : Nat) → (counts : Bool) → Evaluation Int
  | 0, _ => throw .expectsPrimary
  | fuel + 1, counts => do
    let token ← next?
    skip
    match token with
    | some (.number value) => return value
    | some (.named name) => if counts then value name else return 0
    | some (.operator "-") => return wrap (-(← operand fuel counts))
    | some (.operator "+") => operand fuel counts
    | some (.operator "!") => return truth ((← operand fuel counts) = 0)
    | some (.operator "~") => return -(← operand fuel counts) - 1
    | some (.operator "(") => do
      let result ← whole fuel counts
      match ← next? with
      | some (.operator ")") => do
        skip
        return result
      | _ => throw .expectsBracket
    | _ => throw .expectsPrimary

end

/-- The value of an expression, and the variables that it assigned, the latest first. -/
def evaluate (lookup : Octets → Except Cause Octets) (expression : Octets) :
    Except Cause (Int × List (Octets × Int)) := do
  let text := expression.toList
  let tokens := tokens (text.length + 1) text
  let (result, state) ← (whole (14 * text.length + 20) true).run { tokens, lookup }
  if state.tokens.isEmpty then return (result, state.assigned) else .error .expectsEnd

def Cause.text (expression : Octets) : Cause → Octets
  | notNumber text => "Illegal number: " ++ text
  | notSet name => name ++ ": parameter not set"
  | cause =>
    let reason :=
      match cause with
      | expectsPrimary => "expecting primary"
      | expectsEnd => "expecting EOF"
      | expectsBracket => "expecting ')'"
      | expectsColon => "expecting ':'"
      | _ => "division by zero"
    "arithmetic expression: " ++ reason ++ ": \"" ++ expression ++ "\""

end Arithmetic

end Overseer.Shell
