import Overseer.Number.Decimal

/-!
# Written JSON

`Json` is the type of the documents that are written: event lines and results.
Object fields keep their order. `compact` writes a document on one line without
blanks; `pretty` gives every element a line of its own, indented by two spaces
a level.
-/

namespace Overseer

/-- A JSON document to be written. Numbers are integers. -/
inductive Json
  | null
  | bool (value : Bool)
  | number (value : Int)
  | string (value : String)
  | array (items : List Json)
  | object (fields : List (String × Json))
  deriving Inhabited

namespace Json

/-! ## Strings -/

/-- A character inside a JSON string. Quotes, backslashes and control characters
below the space are escaped; all else stands for itself. -/
def stringChar (c : Char) : List Char :=
  match c with
  | '"' => ['\\', '"']
  | '\\' => ['\\', '\\']
  | '\x08' => ['\\', 'b']
  | '\t' => ['\\', 't']
  | '\n' => ['\\', 'n']
  | '\x0c' => ['\\', 'f']
  | '\r' => ['\\', 'r']
  | _ =>
    if c.toNat < 0x20 then
      ['\\', 'u', '0', '0', Nat.digitChar (c.toNat / 16), Nat.digitChar (c.toNat % 16)]
    else [c]

def stringChars (value : String) : List Char :=
  '"' :: value.toList.flatMap stringChar ++ ['"']

/-! ## One line -/

mutual

def compactChars : Json → List Char
  | .null => "null".toList
  | .bool value => (if value then "true" else "false").toList
  | .number value => (integerText value).toList
  | .string value => stringChars value
  | .array items => '[' :: compactItems items ++ [']']
  | .object fields => '\x7b' :: compactFields fields ++ ['\x7d']

def compactItems : List Json → List Char
  | [] => []
  | [item] => item.compactChars
  | item :: rest => item.compactChars ++ ',' :: compactItems rest

def compactFields : List (String × Json) → List Char
  | [] => []
  | [(name, value)] => stringChars name ++ ':' :: value.compactChars
  | (name, value) :: rest =>
    stringChars name ++ ':' :: (value.compactChars ++ ',' :: compactFields rest)

end

/-- The document on one line. -/
def compact (json : Json) : String := String.ofList json.compactChars

/-! ## Indented -/

/-- The break before an element at the given depth. -/
def lineBreak (depth : Nat) : List Char := '\n' :: List.replicate (2 * depth) ' '

mutual

def prettyChars (depth : Nat) : Json → List Char
  | .array [] => "[]".toList
  | .array items =>
    '[' :: prettyItems (depth + 1) items ++ lineBreak depth ++ [']']
  | .object [] => ['\x7b', '\x7d']
  | .object fields =>
    '\x7b' :: prettyFields (depth + 1) fields ++ lineBreak depth ++ ['\x7d']
  | json => json.compactChars

def prettyItems (depth : Nat) : List Json → List Char
  | [] => []
  | [item] => lineBreak depth ++ item.prettyChars depth
  | item :: rest => lineBreak depth ++ item.prettyChars depth ++ ',' :: prettyItems depth rest

def prettyFields (depth : Nat) : List (String × Json) → List Char
  | [] => []
  | [(name, value)] =>
    lineBreak depth ++ stringChars name ++ ':' :: ' ' :: value.prettyChars depth
  | (name, value) :: rest =>
    lineBreak depth ++ stringChars name ++ ':' :: ' ' :: (value.prettyChars depth ++
      ',' :: prettyFields depth rest)

end

/-- The document with a line for every element. -/
def pretty (json : Json) : String := String.ofList (json.prettyChars 0)

/-! ## Optional values -/

/-- The document of an optional value, `null` for none. -/
def optional (encode : α → Json) : Option α → Json
  | some value => encode value
  | none => .null

end Json

end Overseer
