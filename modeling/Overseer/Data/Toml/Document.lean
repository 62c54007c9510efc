import Overseer.Data.Toml.Scalar
import Overseer.Data.Toml.Strings
import Overseer.Data.Toml.Table

/-!
# Reading TOML

`Value.ofToml?` reads a TOML text: lines that give a key its value, and headers
that say which table the keys after them belong to. Arrays and inline tables may
run over several lines, may end with a comma, and may be nested up to a limit.
-/

namespace Overseer

namespace Toml

/-! ## Values -/

/-- The number of arrays and inline tables that may stand inside each other. -/
def nestingLimit : Nat := 80

/-- The path and the last part of a key. -/
def splitKey : List String → Option (List String × String)
  | [] => none
  | [last] => some ([], last)
  | first :: rest => do
    let (path, last) ← splitKey rest
    some (first :: path, last)

mutual

/-- A value; `fuel` bounds the characters that are left, and `depth` the arrays
and inline tables that may still be opened. -/
def value : (fuel depth : Nat) → List Char → Option (Value × List Char)
  | 0, _, _ => none
  | fuel + 1, depth, input =>
    match input, depth with
    | '[' :: _, 0 => none
    | '\x7b' :: _, 0 => none
    | '[' :: rest, depth + 1 => do arrayRest fuel depth [] (← skipLayout false rest)
    | '\x7b' :: rest, depth + 1 => do tableRest fuel depth [] (← skipLayout false rest)
    | '"' :: _, _ => (string input).map fun (text, rest) => (.text text, rest)
    | '\'' :: _, _ => (string input).map fun (text, rest) => (.text text, rest)
    | _, _ => scalar input

/-- The items of an array from here on; `read` holds those before, latest first. -/
def arrayRest : (fuel depth : Nat) → (read : List Value) → List Char →
    Option (Value × List Char)
  | 0, _, _, _ => none
  | fuel + 1, depth, read, input =>
    match input with
    | ']' :: rest => some (.list read.reverse, rest)
    | _ => do
      let (item, rest) ← value fuel depth input
      match ← skipLayout false rest with
      | ',' :: rest => arrayRest fuel depth (item :: read) (← skipLayout false rest)
      | ']' :: rest => some (.list (item :: read).reverse, rest)
      | _ => none

/-- The fields of an inline table from here on; `read` holds those before. -/
def tableRest : (fuel depth : Nat) → (read : Fields) → List Char → Option (Value × List Char)
  | 0, _, _, _ => none
  | fuel + 1, depth, read, input =>
    match input with
    | '\x7d' :: rest => some (.record (fieldValues read), rest)
    | _ => do
      let (parts, rest) ← key input
      let (path, name) ← splitKey parts
      let rest ← expect '=' (← skipLayout false rest)
      let (content, rest) ← value fuel depth (← skipLayout false rest)
      let read ← read.assign content name path true
      match ← skipLayout false rest with
      | ',' :: rest => tableRest fuel depth read (← skipLayout false rest)
      | '\x7d' :: rest => some (.record (fieldValues read), rest)
      | _ => none

end

/-! ## Lines -/

/-- What one line says. -/
inductive Line
  | assignment (key : List String) (value : Value)
  | header (key : List String)
  | itemHeader (key : List String)

/-- A line, and the text after it. -/
def line (input : List Char) : Option (Line × List Char) :=
  match input with
  | '[' :: '[' :: rest => do
    let (parts, rest) ← key rest
    let rest ← expect ']' (← expect ']' rest)
    some (.itemHeader parts, ← skipLineEnd false rest)
  | '[' :: rest => do
    let (parts, rest) ← key rest
    some (.header parts, ← skipLineEnd false (← expect ']' rest))
  | _ => do
    let (parts, rest) ← key input
    let rest := skipBlanks (← expect '=' rest)
    let (content, rest) ← value (rest.length + 1) nestingLimit rest
    some (.assignment parts content, ← skipLineEnd false rest)

/-- The lines of a text. -/
def lines : (fuel : Nat) → List Char → Option (List Line)
  | 0, _ => none
  | fuel + 1, input => do
    match ← skipLayout false input with
    | [] => some []
    | input =>
      let (first, rest) ← line input
      some (first :: (← lines fuel rest))

/-- Builds the table of a text; `header` is the last header so far. -/
def build (header : List String) (fields : Fields) : List Line → Option Fields
  | [] => some fields
  | .assignment parts content :: rest => do
    let (path, name) ← splitKey parts
    build header (← fields.atPath (·.assign content name path true) header) rest
  | .header parts :: rest => do
    let (path, name) ← splitKey parts
    build parts (← fields.atPath (·.declare name) path) rest
  | .itemHeader parts :: rest => do
    let (path, name) ← splitKey parts
    build parts (← fields.atPath (·.declareItem name) path) rest

/-- The text without a byte order mark at its start. -/
def withoutMark : List Char → List Char
  | '\uFEFF' :: rest => rest
  | input => input

end Toml

/-- The document of a TOML text; none for a text that is not TOML. -/
def Value.ofToml? (text : String) : Option Value := do
  let input := Toml.withoutMark text.toList
  let fields ← Toml.build [] [] (← Toml.lines (input.length + 1) input)
  some (.record (Toml.fieldValues fields))

end Overseer
