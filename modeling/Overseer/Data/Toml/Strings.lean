import Overseer.Data.Toml.Layout

/-!
# Strings and keys of TOML

Basic strings stand between double quotes and know escapes; literal strings stand
between single quotes and do not. Both have a form with three quotes that may run
over several lines. A key is a bare word, a basic string or a literal string, or
several of these joined by points.

Every reader here gives what it read and the rest of the text.
-/

namespace Overseer.Toml

/-! ## Escapes -/

def hexDigit? (c : Char) : Option Nat :=
  if c.isDigit then some (c.toNat - '0'.toNat)
  else if 'a' ≤ c ∧ c ≤ 'f' then some (c.toNat - 'a'.toNat + 10)
  else if 'A' ≤ c ∧ c ≤ 'F' then some (c.toNat - 'A'.toNat + 10)
  else none

/-- The character given by so many hexadecimal digits; `high` holds the digits
before them. -/
def hexCharacter (high : Nat) : Nat → List Char → Option (Char × List Char)
  | 0, rest => if high.isValidChar then some (Char.ofNat high, rest) else none
  | digits + 1, c :: rest => do hexCharacter (high * 16 + (← hexDigit? c)) digits rest
  | _, [] => none

/-- The character after a backslash. -/
def escaped : List Char → Option (Char × List Char)
  | 'b' :: rest => some ('\x08', rest)
  | 't' :: rest => some ('\t', rest)
  | 'n' :: rest => some ('\n', rest)
  | 'f' :: rest => some ('\x0c', rest)
  | 'r' :: rest => some ('\r', rest)
  | 'e' :: rest => some ('\x1b', rest)
  | '"' :: rest => some ('"', rest)
  | '\\' :: rest => some ('\\', rest)
  | 'x' :: rest => hexCharacter 0 2 rest
  | 'u' :: rest => hexCharacter 0 4 rest
  | 'U' :: rest => hexCharacter 0 8 rest
  | _ => none

/-- Skips blanks and line ends. -/
def skipLines : List Char → List Char
  | '\r' :: '\n' :: rest => skipLines rest
  | c :: rest => if isBlank c || c = '\n' then skipLines rest else c :: rest
  | [] => []

/-- The text after a backslash that ends its line: the next line goes on without
the blanks before it. -/
def continued? (input : List Char) : Option (List Char) :=
  match skipBlanks input with
  | '\n' :: rest => some (skipLines rest)
  | '\r' :: '\n' :: rest => some (skipLines rest)
  | _ => none

/-! ## Strings on one line

The argument `read` holds the characters read so far, latest first, and `fuel`
bounds the characters that are left. -/

def literalRest (read : List Char) : List Char → Option (String × List Char)
  | '\'' :: rest => some (String.ofList read.reverse, rest)
  | c :: rest => if isText c then literalRest (c :: read) rest else none
  | [] => none

def basicRest : (fuel : Nat) → (read : List Char) → List Char → Option (String × List Char)
  | _, read, '"' :: rest => some (String.ofList read.reverse, rest)
  | fuel + 1, read, '\\' :: rest => do
    let (c, rest) ← escaped rest
    basicRest fuel (c :: read) rest
  | fuel + 1, read, c :: rest => if isText c then basicRest fuel (c :: read) rest else none
  | _, _, _ => none

/-! ## Strings over several lines -/

/-- Skips a line end that follows the opening quotes. -/
def afterOpening : List Char → List Char
  | '\n' :: rest => rest
  | '\r' :: '\n' :: rest => rest
  | input => input

/-- The end of a string with three quotes. One or two more quotes belong to its
content. -/
def closing? (quote : Char) : List Char → Option (List Char × List Char)
  | a :: b :: c :: rest =>
    if a = quote && b = quote && c = quote then
      let extra := (rest.take 2).takeWhile (· = quote)
      some (extra, rest.drop extra.length)
    else none
  | _ => none

def multiLiteralRest : (fuel : Nat) → (read : List Char) → List Char →
    Option (String × List Char)
  | 0, _, _ => none
  | fuel + 1, read, input =>
    match closing? '\'' input with
    | some (extra, rest) => some (String.ofList (read.reverse ++ extra), rest)
    | none =>
      match input with
      | '\r' :: '\n' :: rest => multiLiteralRest fuel ('\n' :: '\r' :: read) rest
      | c :: rest =>
        if isText c || c = '\n' then multiLiteralRest fuel (c :: read) rest else none
      | [] => none

def multiBasicRest : (fuel : Nat) → (read : List Char) → List Char →
    Option (String × List Char)
  | 0, _, _ => none
  | fuel + 1, read, input =>
    match closing? '"' input with
    | some (extra, rest) => some (String.ofList (read.reverse ++ extra), rest)
    | none =>
      match input with
      | '\r' :: '\n' :: rest => multiBasicRest fuel ('\n' :: '\r' :: read) rest
      | '\\' :: rest =>
        match continued? rest with
        | some rest => multiBasicRest fuel read rest
        | none => do
          let (c, rest) ← escaped rest
          multiBasicRest fuel (c :: read) rest
      | c :: rest =>
        if isText c || c = '\n' then multiBasicRest fuel (c :: read) rest else none
      | [] => none

/-- A string of any of the four forms, if the text starts with a quote. -/
def string (input : List Char) : Option (String × List Char) :=
  match input with
  | '"' :: '"' :: '"' :: rest => multiBasicRest input.length [] (afterOpening rest)
  | '\'' :: '\'' :: '\'' :: rest => multiLiteralRest input.length [] (afterOpening rest)
  | '"' :: rest => basicRest input.length [] rest
  | '\'' :: rest => literalRest [] rest
  | _ => none

/-! ## Keys -/

def isBare (c : Char) : Bool := c.isAlphanum || c = '_' || c = '-'

/-- One part of a key. -/
def keyPart (input : List Char) : Option (String × List Char) :=
  match input with
  | '"' :: rest => basicRest input.length [] rest
  | '\'' :: rest => literalRest [] rest
  | _ =>
    let (bare, rest) := input.span isBare
    if bare.isEmpty then none else some (String.ofList bare, rest)

/-- A key whose parts are joined by points, at most `parts` of them. Blanks may
stand around the points. -/
def dottedKey : (parts : Nat) → List Char → Option (List String × List Char)
  | 0, _ => none
  | parts + 1, input => do
    let (first, rest) ← keyPart input
    match skipBlanks rest with
    | '.' :: rest =>
      let (others, rest) ← dottedKey parts (skipBlanks rest)
      some (first :: others, rest)
    | rest => some ([first], rest)

/-- The number of parts that a key may have. -/
def keyPartLimit : Nat := 80

/-- A key, with the blanks around it. -/
def key (input : List Char) : Option (List String × List Char) :=
  dottedKey keyPartLimit (skipBlanks input)

end Overseer.Toml
