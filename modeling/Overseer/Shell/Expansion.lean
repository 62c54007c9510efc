import Overseer.Files.Search
import Overseer.Number.Decimal
import Overseer.Shell.Arithmetic
import Overseer.Shell.Subshell

/-!
# Shell expansion

Words become the fields of a command, the text of an assignment, or a pattern. What an
expansion outside of quotes gives is split at separators, and wildcards count only
outside of quotes.
-/

namespace Overseer.Shell

/-- A part of an expanded word. -/
inductive Glyph
  /-- A character. It may separate fields if it is `soft`. -/
  | char (c : Char) (soft quoted : Bool)
  /-- A place that makes a field even of nothing. -/
  | anchor
  /-- The end of a field. -/
  | cut

namespace Glyph

/-- The characters of a value. -/
def ofValue (text : Octets) (quoted : Bool) : List Glyph :=
  text.toList.map fun c => .char c (!quoted) quoted

def chars (glyphs : List Glyph) : List Char :=
  glyphs.filterMap fun
    | .char c _ _ => some c
    | _ => none

def text (glyphs : List Glyph) : Octets := String.ofList (chars glyphs)

def marked (glyphs : List Glyph) : List MarkedChar :=
  glyphs.filterMap fun
    | .char c _ quoted => some (c, quoted)
    | _ => none

/-- Makes the characters outside of quotes separators of fields where they can be. -/
def soften (glyphs : List Glyph) : List Glyph :=
  glyphs.map fun
    | .char c _ false => .char c true false
    | glyph => glyph

/-- Puts glyphs between others. -/
def join (separator : List Glyph) : List (List Glyph) → List Glyph
  | [] => []
  | [first] => first
  | first :: rest => first ++ separator ++ join separator rest

end Glyph

/-! ## Fields -/

/-- What came before, while a text is split. -/
inductive FieldPlace
  | start
  /-- A blank that ended a field. -/
  | blank
  | inside (read : List MarkedChar)

/-- The fields that glyphs make up. Blanks among the separators only count once. -/
def fieldsOf (separators : List Char) : FieldPlace → List Glyph → List (List MarkedChar)
  | .inside read, [] => [read.reverse]
  | _, [] => []
  | place, glyph :: rest =>
    let read :=
      match place with
      | .inside read => read
      | _ => []
    match glyph with
    | .anchor => fieldsOf separators (.inside read) rest
    | .cut =>
      match place with
      | .inside read => read.reverse :: fieldsOf separators .start rest
      | _ => fieldsOf separators .start rest
    | .char c soft quoted =>
      if soft && separators.contains c then
        let isBlank := c = ' ' || c = '\t' || c = '\n'
        match place with
        | .inside read =>
          read.reverse :: fieldsOf separators (if isBlank then .blank else .start) rest
        | .blank => fieldsOf separators (if isBlank then .blank else .start) rest
        | .start =>
          if isBlank then fieldsOf separators .start rest
          else [] :: fieldsOf separators .start rest
      else fieldsOf separators (.inside ((c, quoted) :: read)) rest

/-! ## Parameters -/

/-- The values of all arguments, as fields of their own where they may be. -/
def argumentGlyphs (name : Octets) (splits quoted : Bool) : Script (List Glyph) := do
  let state ← get
  let separator :=
    match state.value? "IFS" with
    | some text => text.toList.take 1
    | none => [' ']
  let values := state.arguments.map fun value => Glyph.ofValue value quoted
  if splits && quoted && name = "@" then
    return Glyph.join [.cut] (values.map (.anchor :: ·))
  else if splits && !quoted then return Glyph.join [.cut] values
  else return Glyph.join (Glyph.ofValue (String.ofList separator) quoted) values

def isAllArguments (name : Octets) : Bool := name = "@" || name = "*"

/-- The value of a parameter, of which nothing is known if it is not set. -/
def parameterValue? (name : Octets) (splits quoted : Bool) : Script (Option (List Glyph)) := do
  let state ← get
  if isAllArguments name then
    if state.arguments.isEmpty then return none
    else return some (← argumentGlyphs name splits quoted)
  else return (state.parameter? name).map fun value => Glyph.ofValue value quoted

/-- The value of a parameter that has to be set if the shell is strict about that. -/
def parameterValue (name : Octets) (splits quoted : Bool) : Script (List Glyph) := do
  match ← parameterValue? name splits quoted with
  | some glyphs => return glyphs
  | none =>
    if (← get).has 'u' && !isAllArguments name then
      Script.fail (name ++ ": parameter not set")
    else return []

/-! ## Home folders -/

/-- The home folder that a text after a tilde stands for. -/
def homeFolder? (state : State) (user : List Char) : Option Octets :=
  if user.isEmpty then state.value? "HOME"
  else if user = ['r', 'o', 'o', 't'] then some "/root"
  else none

/-- Replaces a tilde at the start of a text, up to what ends the name after it. -/
def expandTilde (state : State) (isWhole : Bool) (ending : List Char) (text : List Char) :
    Option (Octets × List Char) :=
  match text with
  | '~' :: rest =>
    let (user, rest) := rest.span fun c => !ending.contains c
    if rest.isEmpty && !isWhole then none
    else (homeFolder? state user).map fun home => (home, rest)
  | _ => none

/-- The glyphs of a text outside of quotes. Tildes stand for home folders at its start,
and in an assignment after each colon. -/
def plainGlyphs (state : State) (inAssignment isWhole : Bool) :
    (fuel : Nat) → (atStart : Bool) → List Char → List Glyph
  | 0, _, _ => []
  | _, _, [] => []
  | fuel + 1, atStart, c :: rest =>
    let ending := if inAssignment then ['/', ':'] else ['/']
    match if atStart then expandTilde state isWhole ending (c :: rest) else none with
    | some (home, rest) =>
      .anchor :: Glyph.ofValue home true ++ plainGlyphs state inAssignment isWhole fuel false rest
    | none =>
      .char c false false ::
        plainGlyphs state inAssignment isWhole fuel (inAssignment && c = ':') rest

/-! ## Pieces -/

/-- What words are expanded to. -/
structure Purpose where
  /-- Whether the word is split into fields. -/
  splits : Bool := false
  tildes : Bool := false
  /-- Whether the word is the value of an assignment. -/
  inAssignment : Bool := false

def Purpose.forFields : Purpose := { splits := true, tildes := true }
def Purpose.forText : Purpose := { tildes := true }
def Purpose.forValue : Purpose := { tildes := true, inAssignment := true }

/-- The value of an arithmetic expression. -/
def arithmeticValue (expression : Octets) : Script Int := do
  let state ← get
  let lookup (name : Octets) : Except Arithmetic.Cause Octets :=
    match state.parameter? name with
    | some value => .ok value
    | none => if state.has 'u' then .error (.notSet name) else .ok ""
  match Arithmetic.evaluate lookup expression with
  | .error cause => Script.fail (cause.text expression)
  | .ok (value, assigned) => do
    for (name, value) in assigned.reverse do Script.assign name (integerText value)
    return value

/-- Whether a value counts as set. -/
def isSet (coversEmpty : Bool) : Option (List Glyph) → Bool
  | none => false
  | some glyphs => !coversEmpty || !(Glyph.chars glyphs).isEmpty

mutual

def expandPieces (interpreter : Interpreter) (purpose : Purpose) :
    (atStart : Bool) → List Piece → Script (List Glyph)
  | _, [] => return []
  | atStart, piece :: rest => do
    let first ← expandPiece interpreter purpose atStart rest.isEmpty piece
    return first ++ (← expandPieces interpreter purpose false rest)

/-- Expands a piece at the start or the end of a word, or elsewhere. -/
def expandPiece (interpreter : Interpreter) (purpose : Purpose) (atStart atEnd : Bool) :
    Piece → Script (List Glyph)
  | .text octets true => return octets.toList.map fun c => .char c false true
  | .text octets false => do
    if purpose.tildes then
      return plainGlyphs (← get) purpose.inAssignment atEnd (octets.length + 1) atStart octets.toList
    else return octets.toList.map fun c => .char c false false
  | .anchor => return [.anchor]
  | .output command quoted => return Glyph.ofValue (← outputOf interpreter command) quoted
  | .arithmetic expression quoted => do
    let text := Glyph.text (← expandPieces interpreter {} false expression)
    return Glyph.ofValue (integerText (← arithmeticValue text)) quoted
  | .parameter name use quoted => expandUse interpreter purpose name quoted use

/-- Expands a parameter. -/
def expandUse (interpreter : Interpreter) (purpose : Purpose) (name : Octets) (quoted : Bool) :
    ParameterUse → Script (List Glyph)
  | .value => parameterValue name purpose.splits quoted
  | .length => do
    let glyphs ← parameterValue name false quoted
    return Glyph.ofValue (Nat.repr (Glyph.chars glyphs).length) quoted
  | .fallback coversEmpty word => do
    let value ← parameterValue? name purpose.splits quoted
    if isSet coversEmpty value then return value.getD []
    else return Glyph.soften (← expandPieces interpreter purpose true word)
  | .replace coversEmpty word => do
    let value ← parameterValue? name purpose.splits quoted
    if isSet coversEmpty value then
      return Glyph.soften (← expandPieces interpreter purpose true word)
    else return []
  | .assign coversEmpty word => do
    let value ← parameterValue? name purpose.splits quoted
    if isSet coversEmpty value then return value.getD []
    else if isName name then do
      let text := Glyph.text (← expandPieces interpreter Purpose.forText true word)
      Script.assign name text
      return Glyph.ofValue text quoted
    else Script.fail (name ++ ": bad variable name")
  | .demand coversEmpty word => do
    let value ← parameterValue? name purpose.splits quoted
    if isSet coversEmpty value then return value.getD []
    else do
      let text := Glyph.text (← expandPieces interpreter Purpose.forText true word)
      let standard := if coversEmpty then "parameter not set or null" else "parameter not set"
      Script.fail (name ++ ": " ++ if word.isEmpty then standard else text)
  | .trim fromEnd longest pattern => do
    let value := Glyph.chars (← parameterValue name false quoted)
    let glob := Glob.ofChars (Glyph.marked (← expandPieces interpreter Purpose.forText true pattern))
    let left :=
      if fromEnd then
        match Glob.suffix? glob longest value with
        | some suffix => value.take (value.length - suffix.length)
        | none => value
      else
        match Glob.prefix? glob longest value with
        | some start => value.drop start.length
        | none => value
    return Glyph.ofValue (String.ofList left) quoted
  | .unknown => Script.fail "Bad substitution"

end

/-! ## Words -/

/-- A word as one text. -/
def expandText (interpreter : Interpreter) (purpose : Purpose) (word : Word) : Script Octets := do
  return Glyph.text (← expandPieces interpreter purpose true word)

/-- A word as a pattern. -/
def expandPattern (interpreter : Interpreter) (word : Word) : Script Glob := do
  return Glob.ofChars (Glyph.marked (← expandPieces interpreter Purpose.forText true word))

/-- The fields of a word: its text split at separators, and the names that its parts
cover where there are any. -/
def expandFields (interpreter : Interpreter) (word : Word) : Script (List Octets) := do
  let glyphs ← expandPieces interpreter Purpose.forFields true word
  let state ← get
  let fields := fieldsOf state.separators .start glyphs
  let isFixed (field : List MarkedChar) : Bool := state.has 'f' || !Glob.isActive field
  if fields.all isFixed then return fields.map FileTree.plainText
  else do
    let tree ← Work.tree
    return fields.flatMap fun field =>
      if isFixed field then [FileTree.plainText field]
      else
        match tree.search state.folder field with
        | [] => [FileTree.plainText field]
        | paths => paths

def expandAllFields (interpreter : Interpreter) (words : List Word) : Script (List Octets) := do
  return (← words.mapM (expandFields interpreter)).flatten

end Overseer.Shell
