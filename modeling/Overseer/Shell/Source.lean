import Overseer.Shell.Command

/-!
# Sources

The text of a command line while it is read, and what can be wrong with it. A
`Reading` takes a part of the text away and gives what that part says.
-/

namespace Overseer.Shell

/-! ## Faults -/

inductive SyntaxCause
  | unexpected (token : Octets) (expected : Option Octets)
  | openQuote
  | openBackquote
  | openBrace
  | openArithmetic
  | loopName
  | functionName
  | descriptor

structure SyntaxFault where
  line : Nat
  cause : SyntaxCause

def SyntaxCause.text : SyntaxCause → Octets
  | unexpected token none => token ++ " unexpected"
  | unexpected token (some expected) =>
    token ++ " unexpected (expecting " ++ expected ++ ")"
  | openQuote => "Unterminated quoted string"
  | openBackquote => "EOF in backquote substitution"
  | openBrace => "Missing '\x7d'"
  | openArithmetic => "Missing '))'"
  | loopName => "Bad for loop variable"
  | functionName => "Bad function name"
  | descriptor => "Bad fd number"

/-! ## Tokens -/

inductive Token
  | finish
  | newline
  /-- An operator other than a redirection. -/
  | operator (text : Octets)
  /-- A word that has a meaning of its own where a command begins. -/
  | keyword (text : Octets)
  | word (word : Word)
  | redirect (redirect : Redirect)

/-- How a token is named in a fault. -/
def Token.name : Token → Octets
  | finish => "end of file"
  | newline => "newline"
  | operator text | keyword text => "\"" ++ text ++ "\""
  | word _ => "word"
  | redirect _ => "redirection"

/-! ## Sources -/

structure Source where
  rest : List Char
  line : Nat := 1
  /-- The lines that were taken out after the line being read. -/
  skipped : Nat := 0
  aliases : List (Octets × Octets) := []
  /-- The aliases whose texts are being read, and how much is left after each. -/
  busy : List (Octets × Nat) := []
  /-- A token that was looked at and is still to be taken. -/
  pending : Option Token := none

abbrev Reading := StateT Source (Except SyntaxFault)

namespace Reading

def fail (cause : SyntaxCause) : Reading α := do throw ⟨(← get).line, cause⟩

def rest : Reading (List Char) := do return (← get).rest

/-- Goes on after some characters, which are skipped. -/
def skip (count : Nat) : Reading Unit :=
  modify fun source => { source with rest := source.rest.drop count }

def setRest (rest : List Char) : Reading Unit := modify fun source => { source with rest }

/-- Takes a line end, and the lines that were taken out after it. -/
def endLine : Reading Unit :=
  modify fun source =>
    { source with
      rest := source.rest.drop 1, line := source.line + 1 + source.skipped, skipped := 0 }

/-- Takes the next character, if there is one. -/
def next? : Reading (Option Char) := do
  match ← rest with
  | [] => return none
  | '\n' :: _ => do
    endLine
    return some '\n'
  | c :: rest => do
    setRest rest
    return some c

/-- Takes back-slashed line ends, which join two lines. -/
def joinLines : Reading Unit := do
  let rec go : (fuel : Nat) → Reading Unit
    | 0 => return
    | fuel + 1 => do
      match ← rest with
      | '\\' :: '\n' :: _ => do
        skip 1
        endLine
        go fuel
      | _ => return
  go (← rest).length

/-- Does a reading on another text, which is read to its end. -/
def within (text : List Char) (reading : Reading α) : Reading α := do
  let source ← get
  set { source with rest := text, skipped := 0, busy := [], pending := none }
  let value ← reading
  set source
  return value

end Reading

/-! ## Characters -/

def isBlank (c : Char) : Bool := c = ' ' || c = '\t'

/-- Whether a character ends a word outside of quotes. -/
def endsWord (c : Char) : Bool := isBlank c || ['\n', ';', '&', '|', '<', '>', '(', ')'].contains c

def isNameStart (c : Char) : Bool := c.isAlpha || c = '_'

def isNameChar (c : Char) : Bool := c.isAlphanum || c = '_'

/-- Whether a text is the name of a variable. -/
def isName (text : Octets) : Bool :=
  match text.toList with
  | [] => false
  | c :: rest => isNameStart c && rest.all isNameChar

/-- The parameters that have a sign for a name. -/
def isSpecial (c : Char) : Bool :=
  c.isDigit || ['?', '$', '!', '#', '@', '*', '-'].contains c

end Overseer.Shell
