import Overseer.Number.Leading
import Overseer.Tools.Records.Program

/-!
# Tokens of record programs

A line end ends a statement, unless what stands before it shows that the statement goes on.
A slash begins an expression where a value may stand, and elsewhere divides.
-/

namespace Overseer.Records

inductive Token
  | number (value : Float)
  | text (octets : Octets)
  | regex (source : List Char)
  | name (name : Octets)
  /-- A name with a bracket directly after it. -/
  | called (name : Octets)
  | builtin (builtin : Builtin)
  | word (word : Octets)
  | sign (sign : Octets)
  /-- The end of a statement: a line end or a semicolon. -/
  | ending (isLineEnd : Bool)

/-- A token, and the number of the line that it is on. -/
structure Lexeme where
  line : Nat
  token : Token

/-- What is wrong with a program. -/
structure SyntaxFault where
  line : Nat
  text : Octets

namespace Token

def words : List Octets :=
  ["BEGIN", "END", "function", "if", "else", "while", "for", "do", "break", "continue", "next",
   "nextfile", "exit", "return", "delete", "in", "getline", "print", "printf"]

def builtins : List (Octets × Builtin) :=
  [("length", .length), ("substr", .part), ("index", .index), ("split", .split),
   ("sub", .replace), ("gsub", .replaceAll), ("match", .search), ("sprintf", .format),
   ("tolower", .lower), ("toupper", .upper), ("int", .whole), ("sin", .sine), ("cos", .cosine),
   ("atan2", .angle), ("exp", .exponential), ("log", .logarithm), ("sqrt", .root),
   ("rand", .random), ("srand", .seed), ("system", .run), ("close", .close),
   ("fflush", .flush), ("systime", .seconds), ("strftime", .date)]

/-- The brackets around a block. -/
def opening : Octets := "\x7b"
def closing : Octets := "\x7d"

/-- The signs, longer ones first. -/
def signs : List Octets :=
  ["&&", "||", "==", "!=", "<=", ">=", "!~", "++", "--", "+=", "-=", "*=", "/=", "%=", "^=",
   ">>", opening, closing, "(", ")", "[", "]", ",", "+", "-", "*", "/", "%", "^", "!", "<", ">",
   "|", "?", ":", "~", "$", "="]

/-- How a token is shown in a message. -/
def shown : Token → Octets
  | .number _ => "number"
  | .text octets => "\"" ++ octets ++ "\""
  | .regex source => "/" ++ String.ofList source ++ "/"
  | .builtin meant => ((builtins.find? (·.2 = meant)).map (·.1)).getD ""
  | .name shown | .called shown | .word shown | .sign shown => shown
  | .ending isLineEnd => if isLineEnd then "end of line" else ";"

/-- Whether a value ends with the token, so that a slash after it divides. -/
def endsValue : Token → Bool
  | .number _ | .text _ | .regex _ | .name _ | .called _ | .builtin _ => true
  | .sign shown => [")", "]", "$", "++", "--"].contains shown
  | .word _ | .ending _ => false

/-- Whether line ends after the token have no meaning. -/
def goesOn : Token → Bool
  | .word shown => shown = "do" || shown = "else"
  | .sign shown => [opening, closing, "&&", "||", ","].contains shown
  | .ending _ => true
  | _ => false

end Token

namespace Lexeme

/-- What a backslash stands for together with what follows it in a text. -/
def escapes : EscapeStyle :=
  { letters := ('"', '"') :: EscapeStyle.controlLetters, octal := true, hexadecimal := true }

/-- Takes a quoted text up to its end; a line end may be escaped. -/
def quoted? : List Char → Option (List Char × List Char)
  | [] | '\n' :: _ => none
  | '"' :: rest => some ([], rest)
  | '\\' :: '\n' :: rest => quoted? rest
  | '\\' :: c :: rest => (quoted? rest).map fun (inner, rest) => ('\\' :: c :: inner, rest)
  | c :: rest => (quoted? rest).map fun (inner, rest) => (c :: inner, rest)

/-- Takes an expression up to the slash at its end. A slash within a set of characters is
one of them. -/
def regex? : (inSet : Bool) → List Char → Option (List Char × List Char)
  | _, [] | _, '\n' :: _ => none
  | inSet, '\\' :: '/' :: rest =>
    (regex? inSet rest).map fun (inner, rest) => ('/' :: inner, rest)
  | inSet, '\\' :: c :: rest =>
    (regex? inSet rest).map fun (inner, rest) => ('\\' :: c :: inner, rest)
  | false, '/' :: rest => some ([], rest)
  | false, '[' :: '^' :: ']' :: rest =>
    (regex? true rest).map fun (inner, rest) => ('[' :: '^' :: ']' :: inner, rest)
  | false, '[' :: ']' :: rest =>
    (regex? true rest).map fun (inner, rest) => ('[' :: ']' :: inner, rest)
  | false, '[' :: rest => (regex? true rest).map fun (inner, rest) => ('[' :: inner, rest)
  | true, ']' :: rest => (regex? false rest).map fun (inner, rest) => (']' :: inner, rest)
  | inSet, c :: rest => (regex? inSet rest).map fun (inner, rest) => (c :: inner, rest)

def isNameStart (c : Char) : Bool := c.isAlpha || c = '_'
def isNamePart (c : Char) : Bool := c.isAlphanum || c = '_'

/-- The token that a name is. -/
def ofName (name : Octets) (isCalled : Bool) : Token :=
  match Token.builtins.lookup name with
  | some builtin => .builtin builtin
  | none =>
    if Token.words.contains name then .word name
    else if isCalled then .called name
    else .name name

/-- Takes the token at the start of a text, which is neither blank nor a line end. -/
def take? (mayBeRegex : Bool) (line : Nat) (text : List Char) :
    Except SyntaxFault (Token × List Char) :=
  match text with
  | ';' :: rest => .ok (.ending false, rest)
  | '"' :: rest =>
    match quoted? rest with
    | some (inner, rest) => .ok (.text (escapes.unescape (String.ofList inner)).1, rest)
    | none =>
      let shown := String.ofList ((rest.takeWhile (· ≠ '\n')).take 10)
      .error ⟨line, "runaway string constant \"" ++ shown ++ " ..."⟩
  | c :: rest =>
    if isNameStart c then
      let (name, rest) := text.span isNamePart
      .ok (ofName (String.ofList name) (rest.head? = some '('), rest)
    else if c = '/' && mayBeRegex then
      match regex? false rest with
      | some (inner, rest) => .ok (.regex inner, rest)
      | none =>
        let shown := String.ofList ((rest.takeWhile (· ≠ '\n')).take 10)
        .error ⟨line, "runaway regular expression /" ++ shown ++ " ..."⟩
    else
      let number :=
        if c.isDigit || (c = '.' && rest.head?.any Char.isDigit) then leadingFloat? false text
        else none
      match number, Token.signs.find? fun sign => text.take sign.length = sign.toList with
      | some (value, rest), _ => .ok (.number value, rest)
      | none, some sign => .ok (.sign sign, text.drop sign.length)
      | none, none =>
        .error ⟨line, "syntax error at or near " ++ String.singleton c⟩
  | [] => .ok (.ending true, [])

/-- The tokens of a text, after the ones taken already, which are given latest first. A
block's closing bracket ends the statement before it. -/
def takeAll : (fuel : Nat) → (line depth : Nat) → List Lexeme → List Char →
    Except SyntaxFault (List Lexeme)
  | 0, _, _, taken, _ => .ok taken
  | _, _, _, taken, [] => .ok taken
  | fuel + 1, line, depth, taken, text@(c :: rest) =>
    let last := taken.head?.map (·.token)
    if c = ' ' || c = '\t' || c = '\r' || c = '\x0c' then takeAll fuel line depth taken rest
    else if c = '#' then takeAll fuel line depth taken (rest.dropWhile (· ≠ '\n'))
    else if c = '\n' then
      if last.all Token.goesOn then takeAll fuel (line + 1) depth taken rest
      else takeAll fuel (line + 1) depth (⟨line, .ending true⟩ :: taken) rest
    else if c = '\\' && rest.head? = some '\n' then takeAll fuel (line + 1) depth taken rest.tail
    else do
      let (token, after) ← take? (!last.any Token.endsValue) line text
      let crossed := (text.take (text.length - after.length)).count '\n'
      match token with
      | .sign sign =>
        if sign = Token.opening then takeAll fuel line (depth + 1) (⟨line, token⟩ :: taken) after
        else if sign = Token.closing then
          let isClosed :=
            match last with
            | some (.ending _) => true
            | some (.sign sign) => sign = Token.closing
            | _ => false
          let taken := if isClosed then taken else ⟨line, .ending false⟩ :: taken
          let after :=
            if depth = 1 then
              match after.dropWhile fun c => c = ' ' || c = '\t' with
              | ';' :: rest => rest
              | _ => after
            else after
          takeAll fuel line (depth - 1) (⟨line, token⟩ :: taken) after
        else takeAll fuel line depth (⟨line, token⟩ :: taken) after
      | _ => takeAll fuel (line + crossed) depth (⟨line, token⟩ :: taken) after

/-- The tokens of a program. -/
def ofText (text : Octets) : Except SyntaxFault (List Lexeme) := do
  return (← takeAll (text.length + 1) 1 0 [] text.toList).reverse

end Lexeme

end Overseer.Records
