import Overseer.Text.Escaped
import Overseer.Tools.Editor.Script

/-!
# Reading scripts of the line editor

Commands are separated by line ends and semicolons. A fault comes with the number of
characters that were read up to it.
-/

namespace Overseer.Editor

/-- What is wrong with a script, and how much of it was read. -/
structure ScriptFault where
  text : Octets
  place : Nat

/-- Reads from a text of a given size. -/
abbrev Reader := ReaderT Nat (StateT (List Char) (Except ScriptFault))

namespace Reader

def fault (text : Octets) : Reader α := do
  throw ⟨text, (← read) - (← get).length⟩

def peek : Reader (Option Char) := return (← get).head?

def skip : Reader Unit := modify List.tail

/-- Takes the characters that a test admits. -/
def takeWhile (test : Char → Bool) : Reader (List Char) := do
  let (taken, rest) := (← get).span test
  set rest
  return taken

def skipBlanks : Reader Unit := do
  let _ ← takeWhile fun c => c = ' ' || c = '\t'

def skipSpace : Reader Unit := do
  let _ ← takeWhile fun c => c = ' ' || ('\t' ≤ c && c ≤ '\r')

/-- A number, if one comes next. -/
def number? : Reader (Option Nat) := do
  let digits ← takeWhile Char.isDigit
  return if digits.isEmpty then none else some (valueOfDigits 10 digits)

/-- The text up to a separator that has no backslash before it, and the rest. The separator
and a line end stand for themselves after a backslash, an `n` there for a line end if that
is wanted. -/
def upTo? (separator : Char) (isPattern : Bool) : List Char → Option (List Char × List Char)
  | [] => none
  | '\\' :: c :: rest => do
    let (text, rest) ← upTo? separator isPattern rest
    if c = '\n' || (c = separator && (isPattern || c ≠ '&')) then return (c :: text, rest)
    else if c = 'n' && isPattern then return ('\n' :: text, rest)
    else return ('\\' :: c :: text, rest)
  | c :: rest =>
    if c = separator then some ([], rest)
    else if c = '\n' then none
    else do
      let (text, rest) ← upTo? separator isPattern rest
      return (c :: text, rest)

/-- The text up to a separator. -/
def delimited (separator : Char) (isPattern : Bool) (what : Octets) : Reader (List Char) := do
  match upTo? separator isPattern (← get) with
  | some (text, rest) => do
    set rest
    return text
  | none => do
    set ([] : List Char)
    fault what

end Reader

open Reader

/-! ## Expressions -/

/-- The letters after a backslash that stand for one character wherever they are. -/
def controlStyle : EscapeStyle :=
  { letters := [('a', '\x07'), ('f', '\x0c'), ('t', '\t'), ('v', '\x0b'), ('r', '\r')]
    hexadecimal := true }

/-- The character whose code stands after a letter for its base, and the rest. -/
def codedChar? : List Char → Option (Char × List Char)
  | 'o' :: c :: rest =>
    if (digitValue? 8 c).isSome then some (byteOfDigits 8 3 (c :: rest)) else none
  | 'd' :: c :: rest => if c.isDigit then some (byteOfDigits 10 3 (c :: rest)) else none
  | text => controlStyle.read? text

/-- The characters that keep a backslash where their codes are written. -/
def specialChars : List Char := ['*', '.', '[', ']', '^', '$', '\\', '/', '&']

/-- Replaces what stands for one character. `fuel` bounds the characters. -/
def resolveControls : (fuel : Nat) → List Char → List Char
  | 0, text => text
  | _, [] => []
  | fuel + 1, '\\' :: c :: rest =>
    match codedChar? (c :: rest) with
    | some (named, after) =>
      (if ['x', 'o', 'd'].contains c && specialChars.contains named then ['\\', named] else [named]) ++
        resolveControls fuel after
    | none => '\\' :: c :: resolveControls fuel rest
  | fuel + 1, c :: rest => c :: resolveControls fuel rest

/-- How a script writes its expressions. -/
structure ScriptStyle where
  extended : Bool

/-- The expression that a text writes, with the letters after it that change its meaning. -/
def ScriptStyle.pattern (style : ScriptStyle) (text flags : List Char) : Reader SearchPattern := do
  if text.isEmpty then return none
  else
    let dialect : Regex.Dialect :=
      { extended := style.extended, ignoresCase := flags.contains 'I' || flags.contains 'i'
        byLines := flags.contains 'M' || flags.contains 'm' }
    match Regex.read? dialect (resolveControls text.length text) with
    | some regex => return some regex
    | none => fault "Invalid regular expression"

/-! ## Selectors -/

/-- An address, if one comes next. -/
def ScriptStyle.address? (style : ScriptStyle) : Reader (Option Address) := do
  let matching (separator : Char) : Reader (Option Address) := do
    let text ← delimited separator true "unterminated address regex"
    let flags ← takeWhile fun c => c = 'I' || c = 'M'
    return some (.matching (← style.pattern text flags))
  match ← peek with
  | some '$' => do
    skip
    return some .lastLine
  | some '/' => do
    skip
    matching '/'
  | some '\\' => do
    skip
    match ← peek with
    | some separator => do
      skip
      matching separator
    | none => fault "unexpected \x60,'"
  | _ =>
    match ← number? with
    | none => return none
    | some first => do
      skipBlanks
      if (← peek) = some '~' then do
        skip
        return some (.every first ((← number?).getD 0))
      else return some (.line first)

def ScriptStyle.rangeEnd (style : ScriptStyle) : Reader RangeEnd := do
  match ← peek with
  | some '+' => do
    skip
    match ← number? with
    | some count => return .later count
    | none => fault "expected number after +"
  | some '~' => do
    skip
    match ← number? with
    | some factor => return .multiple factor
    | none => fault "expected number after ~"
  | _ =>
    match ← style.address? with
    | some address => return .address address
    | none => fault "unexpected \x60,'"

def ScriptStyle.selector (style : ScriptStyle) : Reader Selector := do
  let first ← style.address?
  skipSpace
  let last ← do
    if first.isSome && (← peek) = some ',' then do
      skip
      skipSpace
      let last ← style.rangeEnd
      pure (some last)
    else pure none
  skipSpace
  let negated := (← peek) = some '!'
  if negated then do
    skip
    skipSpace
    if (← peek) = some '!' then do
      skip
      fault "multiple \x60!'s"
  match first, last with
  | some (.line 0), some (.address (.matching pattern)) =>
    return { first, last := some (.address (.matching pattern)), beginsEarly := true, negated }
  | some (.line 0), _ => do
    skip
    fault "invalid usage of line address 0"
  | _, _ => return { first, last, negated }

/-! ## Arguments of commands -/

/-- What replaces a match. `groups` is the number of groups that there are. `fuel` bounds the
characters. -/
def replacementOf (groups : Nat) : (fuel : Nat) → List Char → Reader (List Replacement)
  | 0, _ => return []
  | _, [] => return []
  | fuel + 1, '&' :: rest => return .group 0 :: (← replacementOf groups fuel rest)
  | fuel + 1, '\\' :: c :: rest => do
    let others := replacementOf groups fuel rest
    match c with
    | 'U' => return .casing .upper :: (← others)
    | 'L' => return .casing .lower :: (← others)
    | 'u' => return .casing .nextUpper :: (← others)
    | 'l' => return .casing .nextLower :: (← others)
    | 'E' => return .casing .plain :: (← others)
    | 'n' => return .text "\n" :: (← others)
    | _ =>
      if c.isDigit then
        let number := c.toNat - '0'.toNat
        if groups < number then
          fault ("invalid reference \\" ++ Nat.repr number ++ " on \x60s' command's RHS")
        else return .group number :: (← others)
      else return .text (String.singleton c) :: (← others)
  | fuel + 1, c :: rest => return .text (String.singleton c) :: (← replacementOf groups fuel rest)

/-- The name of a file: the rest of the line. -/
def fileName : Reader Octets := do
  skipBlanks
  let name ← takeWhile (· ≠ '\n')
  if name.isEmpty then fault "missing filename in r/R/w/W commands"
  else return String.ofList name

/-- A label: everything up to a blank or a semicolon. -/
def labelName : Reader Octets := do
  skipBlanks
  let name ← takeWhile fun c => c ≠ ';' && c ≠ '\n' && c ≠ ' ' && c ≠ '\t'
  return String.ofList name

/-- The letters after a substitution. `fuel` bounds the letters. -/
def substitutionFlags : (fuel : Nat) → Substitution → List Char →
    Reader (Substitution × List Char)
  | 0, substitution, letters => return (substitution, letters)
  | fuel + 1, substitution, letters => do
    match ← peek with
    | some 'g' => do
      skip
      if substitution.isGlobal then fault "multiple \x60g' options to \x60s' command"
      else substitutionFlags fuel { substitution with isGlobal := true } letters
    | some 'p' => do
      skip
      if substitution.prints then fault "multiple \x60p' options to \x60s' command"
      else substitutionFlags fuel { substitution with prints := true } letters
    | some 'w' => do
      skip
      return ({ substitution with file := some (← fileName) }, letters)
    | some c =>
      if c.isDigit then
        let place := (← number?).getD 0
        if place = 0 then fault "number option to \x60s' command may not be zero"
        else substitutionFlags fuel { substitution with place } letters
      else if ['i', 'I', 'm', 'M'].contains c then do
        skip
        substitutionFlags fuel substitution (c :: letters)
      else return (substitution, letters)
    | none => return (substitution, letters)

def ScriptStyle.substitution (style : ScriptStyle) : Reader Substitution := do
  match ← peek with
  | none => fault "unterminated \x60s' command"
  | some separator => do
    skip
    let pattern ← delimited separator true "unterminated \x60s' command"
    let replacement ← delimited separator false "unterminated \x60s' command"
    let (substitution, letters) ←
      substitutionFlags ((← get).length + 1) { pattern := none, replacement := [] } []
    let pattern ← style.pattern pattern letters
    let groups :=
      match pattern with
      | some regex => regex.groupNumbers.length
      | none => 9
    let resolved := resolveControls replacement.length replacement
    let replacement ← replacementOf groups (resolved.length + 1) resolved
    return { substitution with pattern, replacement }

/-- The characters of a side of a transliteration. -/
def transliterated : List Char → List Char
  | '\\' :: 'n' :: rest => '\n' :: transliterated rest
  | '\\' :: '\\' :: rest => '\\' :: transliterated rest
  | c :: rest => c :: transliterated rest
  | [] => []

/-- The lines of a text up to one that does not end with a backslash; other backslashes are
dropped. `fuel` bounds the characters. -/
def textLines : (fuel : Nat) → List Char → List Char × List Char
  | 0, text => ([], text)
  | fuel + 1, '\\' :: c :: rest =>
    let (c, rest) :=
      match codedChar? (c :: rest) with
      | some coded => coded
      | none => (if c = 'n' then '\n' else c, rest)
    let (text, rest) := textLines fuel rest
    (c :: text, rest)
  | _, '\n' :: rest => ([], rest)
  | fuel + 1, c :: rest =>
    let (text, rest) := textLines fuel rest
    (c :: text, rest)
  | _, [] => ([], [])

/-- The text that a command adds. -/
def addedText : Reader Octets := do
  skipBlanks
  match ← get with
  | [] => fault "expected \\ after \x60a', \x60c' or \x60i'"
  | '\\' :: rest => do
    let (blanks, after) := rest.span fun c => c = ' ' || c = '\t'
    set (match after with
      | '\n' :: after => after
      | _ => blanks ++ after)
  | _ => pure ()
  if (← get).isEmpty then return ""
  else do
    let chars ← get
    let (text, rest) := textLines (chars.length + 1) chars
    set rest
    return String.ofList text ++ "\n"

/-! ## Commands -/

/-- Checks that nothing more belongs to a command. -/
def endCommand : Reader Unit := do
  skipBlanks
  match ← peek with
  | none | some '\x7d' | some '#' => return
  | some c =>
    skip
    if c = ';' || c = '\n' then return
    else fault "extra characters after command"

/-- A command that has no argument. -/
def simpleAction? : Char → Option Action
  | '=' => some .printNumber
  | 'd' => some .delete
  | 'D' => some .deleteFirst
  | 'F' => some .printName
  | 'g' => some .get
  | 'G' => some .getMore
  | 'h' => some .hold
  | 'H' => some .holdMore
  | 'n' => some .next
  | 'N' => some .nextMore
  | 'p' => some .print
  | 'P' => some .printFirst
  | 'x' => some .exchange
  | 'z' => some .clear
  | _ => none

/-- What a command does, given its letter. -/
def ScriptStyle.action (style : ScriptStyle) (hasRange : Bool) (letter : Char) : Reader Action := do
  let ended (action : Action) : Reader Action := do
    endCommand
    return action
  let label : Reader (Option Octets) := do
    let name ← labelName
    endCommand
    return if name.isEmpty then none else some name
  match simpleAction? letter with
  | some action => ended action
  | none =>
    match letter with
    | '\x7b' => return .open
    | '\x7d' => ended .close
    | ':' => do
      let name ← labelName
      if name.isEmpty then fault "\":\" lacks a label"
      else return .label name
    | 'b' => return .branch none (← label)
    | 't' => return .branch (some true) (← label)
    | 'T' => return .branch (some false) (← label)
    | 'a' => return .append (← addedText)
    | 'i' => return .insert (← addedText)
    | 'c' => return .change (← addedText)
    | 'l' => do
      skipBlanks
      let width ← number?
      ended (.printPlainly width)
    | 'q' | 'Q' => do
      if hasRange then fault "command only uses one address"
      skipBlanks
      let status ← number?
      ended (.quit (status.getD 0) (letter = 'q'))
    | 'r' => return .readFile (← fileName)
    | 'R' => return .readLine (← fileName)
    | 'w' => return .writeFile (← fileName)
    | 'W' => return .writeFirst (← fileName)
    | 's' => do
      let substitution ← style.substitution
      if substitution.file.isNone then
        skipBlanks
        match ← peek with
        | none | some '\x7d' | some '#' => pure ()
        | some c => do
          skip
          if c ≠ ';' && c ≠ '\n' then fault "unknown option to \x60s'"
      return .substitute substitution
    | 'y' => do
      match ← peek with
      | none => fault "unterminated \x60y' command"
      | some separator => do
        skip
        let before := transliterated (← delimited separator false "unterminated \x60y' command")
        let after := transliterated (← delimited separator false "unterminated \x60y' command")
        if before.length ≠ after.length then
          fault "strings for \x60y' command are different lengths"
        else ended (.transliterate before after)
    | c => fault ("unknown command: \x60" ++ String.singleton c ++ "'")

/-- The commands of a script. `fuel` bounds the commands, and `depth` is the number of blocks
that are open. -/
def ScriptStyle.commands (style : ScriptStyle) : (fuel depth : Nat) → Reader (List Command)
  | 0, _ => return []
  | fuel + 1, depth => do
    let _ ← takeWhile fun c => c = ';' || c = ' ' || ('\t' ≤ c && c ≤ '\r')
    match ← peek with
    | none =>
      if depth = 0 then return []
      else throw ⟨"unmatched \x60\x7b'", 0⟩
    | some '#' => do
      let _ ← takeWhile (· ≠ '\n')
      style.commands fuel depth
    | some _ => do
      let selector ← style.selector
      skipSpace
      match ← peek with
      | none => fault "missing command"
      | some letter => do
        skip
        if letter = '\x7d' && selector.first.isSome then
          fault "\x7d doesn't want any addresses"
        if letter = '\x7d' && depth = 0 then fault "unexpected \x60\x7d'"
        if letter = ':' && selector.first.isSome then fault ": doesn't want any addresses"
        let action ← style.action selector.last.isSome letter
        let depth :=
          match action with
          | .open => depth + 1
          | .close => depth - 1
          | _ => depth
        return ⟨selector, action⟩ :: (← style.commands fuel depth)

/-- The script that a text writes. -/
def ScriptStyle.script (style : ScriptStyle) (text : Octets) : Except ScriptFault (List Command) := do
  let chars := text.toList
  let (commands, _) ← ((style.commands (chars.length + 1) 0).run chars.length).run chars
  return commands

end Overseer.Editor
