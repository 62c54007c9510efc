import Overseer.Shell.Source

/-!
# Reading words

A word is read piece by piece up to the border that ends it. Inside of a word there
may be expansions, which may hold words again, and commands; how commands are read is
given from outside.
-/

namespace Overseer.Shell

/-- Which characters are special in a part of a word. -/
inductive Manner
  /-- Outside of quotes. -/
  | plain
  /-- Between double quotes. -/
  | quoted
  /-- In a here-document, where quotes are not special. -/
  | document
  | arithmetic
  deriving DecidableEq

/-- What ends a part of a word. -/
inductive Border
  /-- A blank or an operator, which is left. -/
  | word
  | quote
  | brace
  /-- Two closing brackets, after those that close the given number of others. -/
  | brackets (depth : Nat)
  /-- The end of the text. -/
  | finish

namespace Piece

/-- Puts the characters read so far, latest first, before some pieces. -/
def flush (quoted : Bool) (read : List Char) (pieces : List Piece) : List Piece :=
  if read.isEmpty then pieces else .text (String.ofList read.reverse) quoted :: pieces

/-- Whether pieces in quotes stand for the arguments of the shell and nothing else. Such
quotes make no field if there are no arguments. -/
def areAllArguments (pieces : List Piece) : Bool :=
  !pieces.isEmpty && pieces.all fun
    | .parameter "@" .value _ => true
    | _ => false

end Piece

namespace Reading

/-- The text up to a quote that ends it, which is taken too. -/
def untilQuote (fuel : Nat) (read : List Char) : Reading (List Char) :=
  match fuel with
  | 0 => fail .openQuote
  | fuel + 1 => do
    match ← next? with
    | none => fail .openQuote
    | some '\'' => return read.reverse
    | some c => untilQuote fuel (c :: read)

/-- The command text between backquotes. A backslash takes away what is special of
the characters that it may stand before. -/
def untilBackquote (inQuotes : Bool) (fuel : Nat) (read : List Char) : Reading (List Char) :=
  match fuel with
  | 0 => fail .openBackquote
  | fuel + 1 => do
    match ← next? with
    | none => fail .openBackquote
    | some '\x60' => return read.reverse
    | some '\\' => do
      match ← next? with
      | none => fail .openBackquote
      | some '\n' => untilBackquote inQuotes fuel read
      | some c =>
        if c = '\\' || c = '\x60' || c = '$' || (inQuotes && c = '"') then
          untilBackquote inQuotes fuel (c :: read)
        else untilBackquote inQuotes fuel (c :: '\\' :: read)
    | some c => untilBackquote inQuotes fuel (c :: read)

/-- Takes the longest run of characters of a kind, across joined lines. -/
def takeRun (isMember : Char → Bool) : Reading (List Char) := do
  let rec go : (fuel : Nat) → List Char → Reading (List Char)
    | 0, read => return read.reverse
    | fuel + 1, read => do
      joinLines
      match ← rest with
      | c :: rest =>
        if isMember c then do
          setRest rest
          go fuel (c :: read)
        else return read.reverse
      | [] => return read.reverse
  go (← rest).length []

/-- Whether a backslash before a character takes away what is special of it. -/
def isEscapable (manner : Manner) (inBrace : Bool) (c : Char) : Bool :=
  match manner with
  | .plain => true
  | _ =>
    c = '\\' || c = '\x60' || c = '$' || (c = '"' && (manner ≠ .document || inBrace)) ||
      (c = '\x7d' && inBrace)

/-- The name that an expansion in braces starts with, and whether its length is asked
for; no name if there is none that can be. -/
def bracedName : Reading (Bool × Option Octets) := do
  joinLines
  match ← rest with
  | '#' :: c :: others =>
    if isNameStart c || c.isDigit then do
      skip 1
      let name ← takeRun (if c.isDigit then Char.isDigit else isNameChar)
      return (true, some (String.ofList name))
    else if isSpecial c && others.head? = some '\x7d' then do
      skip 2
      return (true, some (String.singleton c))
    else do
      skip 1
      return (false, some "#")
  | c :: _ =>
    if isNameStart c then return (false, some (String.ofList (← takeRun isNameChar)))
    else if c.isDigit then return (false, some (String.ofList (← takeRun Char.isDigit)))
    else if isSpecial c then do
      skip 1
      return (false, some (String.singleton c))
    else return (false, none)
  | [] => return (false, none)

mutual

/-- The pieces up to a border. `commands` reads commands, up to the end of the text or
else up to a closing bracket that is taken too; `read` holds the characters before
that are not in a piece yet. -/
def pieces (commands : Bool → Reading Command) :
    (fuel : Nat) → Manner → Border → (read : List Char) → Reading (List Piece)
  | 0, _, _, _ => fail .openQuote
  | fuel + 1, manner, border, read => do
    let inQuotes := manner ≠ .plain
    let inBrace :=
      match border with
      | .brace => true
      | _ => false
    let done : Reading (List Piece) := return Piece.flush inQuotes read []
    let more (piece : Piece) : Reading (List Piece) := do
      return Piece.flush inQuotes read (piece :: (← pieces commands fuel manner border []))
    let add (chars : List Char) : Reading (List Piece) :=
      pieces commands fuel manner border (chars ++ read)
    match ← rest with
    | [] =>
      match border with
      | .word | .finish => done
      | .quote => fail .openQuote
      | .brace => fail .openBrace
      | .brackets _ => fail .openArithmetic
    | '\\' :: '\n' :: _ => do
      skip 1
      endLine
      add []
    | ['\\'] => do
      skip 1
      more (.text "\\" true)
    | '\\' :: c :: _ => do
      skip 1
      let _ ← next?
      if isEscapable manner inBrace c then more (.text (String.singleton c) true)
      else add [c, '\\']
    | '$' :: _ => do
      skip 1
      more (← expansion commands fuel manner)
    | '\x60' :: rest => do
      skip 1
      let text ← untilBackquote inQuotes (rest.length + 1) []
      let command ← within text (commands true)
      more (.output command inQuotes)
    | c :: others =>
      let leavesWord :=
        match border with
        | .word => endsWord c
        | _ => false
      let leavesBrace := inBrace && c = '\x7d'
      let leavesQuote :=
        match border with
        | .quote => c == '"'
        | _ => false
      if leavesWord then done
      else if leavesBrace || leavesQuote then do
        skip 1
        done
      else if c = '"' && (manner = .plain || manner = .quoted) then do
        skip 1
        let inner ← pieces commands fuel .quoted .quote []
        let quotes := if Piece.areAllArguments inner then inner else .anchor :: inner
        return Piece.flush inQuotes read (quotes ++ (← pieces commands fuel manner border []))
      else if c = '\'' && manner = .plain then do
        skip 1
        let text ← untilQuote (others.length + 1) []
        return Piece.flush inQuotes read
          (.anchor :: Piece.flush true text.reverse (← pieces commands fuel manner border []))
      else do
        let _ ← next?
        match border, c with
        | .brackets depth, '(' => pieces commands fuel manner (.brackets (depth + 1)) (c :: read)
        | .brackets (depth + 1), ')' => pieces commands fuel manner (.brackets depth) (c :: read)
        | .brackets 0, ')' => do
          joinLines
          match ← rest with
          | ')' :: _ => do
            skip 1
            done
          | _ => add [c]
        | _, _ => add [c]

/-- The piece that a dollar sign begins. Before anything else than an expansion it
stands for itself. -/
def expansion (commands : Bool → Reading Command) : (fuel : Nat) → Manner → Reading Piece
  | 0, _ => fail .openQuote
  | fuel + 1, manner => do
    let inQuotes := manner ≠ .plain
    joinLines
    match ← rest with
    | '(' :: _ => do
      skip 1
      joinLines
      match ← rest with
      | '(' :: _ => do
        skip 1
        return .arithmetic (← pieces commands fuel .arithmetic (.brackets 0) []) inQuotes
      | _ => return .output (← commands false) inQuotes
    | '\x7b' :: _ => do
      skip 1
      let (ofLength, name) ← bracedName
      match name with
      | none => return .parameter "" (← unknownUse commands fuel manner) inQuotes
      | some name => return .parameter name (← use commands fuel manner ofLength) inQuotes
    | c :: _ =>
      if isNameStart c then
        return .parameter (String.ofList (← takeRun isNameChar)) .value inQuotes
      else if isSpecial c then do
        skip 1
        return .parameter (String.singleton c) .value inQuotes
      else return .text "$" true
    | [] => return .text "$" true

/-- The use of a parameter that there is not; its text is skipped. -/
def unknownUse (commands : Bool → Reading Command) : (fuel : Nat) → Manner → Reading ParameterUse
  | 0, _ => fail .openBrace
  | fuel + 1, manner => do
    let _ ← pieces commands fuel manner .brace []
    return .unknown

/-- What is done with a parameter in braces, after its name. -/
def use (commands : Bool → Reading Command) :
    (fuel : Nat) → Manner → (ofLength : Bool) → Reading ParameterUse
  | 0, _, _ => fail .openBrace
  | fuel + 1, manner, ofLength => do
    joinLines
    let (covers, text) :=
      match ← rest with
      | ':' :: rest => (true, rest)
      | rest => (false, rest)
    let word (use : List Piece → ParameterUse) : Reading ParameterUse := do
      skip (if covers then 2 else 1)
      return use (← pieces commands fuel manner .brace [])
    let trim (fromEnd : Bool) (sign : Char) : Reading ParameterUse := do
      skip 1
      joinLines
      let longest := (← rest).head? = some sign
      skip (if longest then 1 else 0)
      return .trim fromEnd longest (← pieces commands fuel .plain .brace [])
    match ofLength, text, covers with
    | _, '\x7d' :: _, false => do
      skip 1
      return if ofLength then .length else .value
    | false, '-' :: _, _ => word (.fallback covers)
    | false, '=' :: _, _ => word (.assign covers)
    | false, '?' :: _, _ => word (.demand covers)
    | false, '+' :: _, _ => word (.replace covers)
    | false, '%' :: _, false => trim true '%'
    | false, '#' :: _, false => trim false '#'
    | _, _, _ => unknownUse commands fuel manner

end

/-- A word, from its first character on. -/
def word (commands : Bool → Reading Command) : Reading Word := do
  pieces commands (4 * (← rest).length + 8) .plain .word []

/-- The pieces of a here-document. -/
def document (commands : Bool → Reading Command) (text : List Char) : Reading Word :=
  within text do pieces commands (4 * text.length + 8) .document .finish []

end Reading

end Overseer.Shell
