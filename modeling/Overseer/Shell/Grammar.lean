import Overseer.Number.Decimal
import Overseer.Shell.WordReader

/-!
# Shell grammar

`Source.command?` reads the commands of one line: simple commands with assignments
and redirections, joined by pipes, by conditions and in sequence, and the compound
commands made of them, which may go on over several lines. The commands of a line are
carried out before the next line is read.
-/

namespace Overseer.Shell

/-! ## What words mean -/

def keywords : List Octets :=
  ["!", "\x7b", "\x7d", "case", "do", "done", "elif", "else", "esac", "fi", "for", "if", "in",
   "then", "until", "while"]

/-- The commands that run in the shell itself although nothing tells them apart from
functions, so that no function may have their names. -/
def specialCommands : List Octets :=
  [".", ":", "break", "continue", "eval", "exec", "exit", "export", "readonly", "return", "set",
   "shift", "times", "trap", "unset"]

/-- The tokens that end a list of commands. -/
def Token.endsList : Token → Bool
  | finish => true
  | keyword text => ["\x7d", "do", "done", "elif", "else", "esac", "fi", "then"].contains text
  | operator text => text = ")" || text = ";;"
  | _ => false

def Token.isOperator (text : Octets) : Token → Bool
  | operator other => other = text
  | _ => false

def Token.isKeyword (text : Octets) : Token → Bool
  | keyword other => other = text
  | _ => false

/-- The text of a word without quotes or expansions. -/
def Word.plainText? : Word → Option Octets
  | [.text octets false] => some octets
  | _ => none

/-- An assignment at the start of a command. -/
def Word.assignment? : Word → Option (Octets × Word)
  | .text octets false :: rest =>
    match octets.toList.span (· ≠ '=') with
    | (name, '=' :: value) =>
      if isName (String.ofList name) then
        some (String.ofList name,
          if value.isEmpty then rest else .text (String.ofList value) false :: rest)
      else none
    | _ => none
  | _ => none

/-- What is looked for before a word is taken for a plain one. -/
structure Attention where
  /-- Whether line ends are skipped. -/
  lines : Bool := false
  keywords : Bool := false
  aliases : Bool := false

namespace Reading

def commandStart : Attention := { keywords := true, aliases := true }
def afterOperator : Attention := { lines := true, keywords := true, aliases := true }

/-- Skips blanks, comments and joined lines. -/
def skipBlanks : Reading Unit := do
  let rec go : (fuel : Nat) → Reading Unit
    | 0 => return
    | fuel + 1 => do
      joinLines
      match ← rest with
      | '#' :: rest => setRest (rest.dropWhile (· ≠ '\n'))
      | c :: rest =>
        if isBlank c then do
          setRest rest
          go fuel
        else return
      | [] => return
  go ((← rest).length + 1)

/-! ## Redirections -/

/-- Whether a word has quotes in it, so that a here-document is taken as it stands. -/
def isQuoted (word : Word) : Bool :=
  word.any fun
    | .text _ quoted => quoted
    | .anchor => true
    | _ => false

/-- The text of the word that ends a here-document. -/
def markerText (word : Word) : Octets :=
  String.join (word.map fun
    | .text octets _ => octets
    | .parameter name _ _ => "$" ++ name
    | _ => "")

/-- Takes a here-document out of the lines after this one. -/
def takeDocument (commands : Bool → Reading Command) (marker : Word) (strips : Bool) :
    Reading Word := do
  let ending := (markerText marker).toList
  let (line, below) := (← rest).span (· ≠ '\n')
  let stripped (text : List Char) : List Char :=
    if strips then text.dropWhile (· = '\t') else text
  let rec collect : (fuel : Nat) → List Char → (read : List (List Char)) →
      List (List Char) × List Char × Nat
    | 0, text, read => (read, text, 0)
    | fuel + 1, text, read =>
      if text.isEmpty then (read, [], 0)
      else
        let (first, others) := text.span (· ≠ '\n')
        if stripped first = ending then (read, others.drop 1, 1)
        else
          let (read, rest, lines) := collect fuel (others.drop 1)
            ((stripped first ++ others.take 1) :: read)
          (read, rest, lines + 1)
  let (read, below, lines) := collect (below.length + 1) (below.drop 1) []
  modify fun source =>
    { source with rest := line ++ '\n' :: below, skipped := source.skipped + lines }
  let text := read.reverse.flatten
  if isQuoted marker then return [.text (String.ofList text) true]
  else document commands text

/-- The redirection at the start of the text, from or to the given descriptor. -/
def redirection (commands : Bool → Reading Command) (descriptor : Option Nat) :
    Reading Redirect := do
  let target : Reading Word := do
    skipBlanks
    match ← rest with
    | [] => fail (.unexpected "end of file" none)
    | c :: _ =>
      if c = '\n' then fail (.unexpected "newline" none)
      else if c = '<' || c = '>' then fail (.unexpected "redirection" none)
      else if endsWord c then fail (.unexpected ("\"" ++ String.singleton c ++ "\"") none)
      else word commands
  let file (length default : Nat) (mode : FileMode) : Reading Redirect := do
    skip length
    return .file (descriptor.getD default) mode (← target)
  let join (default : Nat) : Reading Redirect := do
    skip 2
    return .join (descriptor.getD default) (← target)
  match ← rest with
  | '<' :: '<' :: rest => do
    let strips := rest.head? = some '-'
    skip (if strips then 3 else 2)
    let marker ← target
    return .here (descriptor.getD 0) (← takeDocument commands marker strips)
  | '<' :: '&' :: _ => join 0
  | '<' :: '>' :: _ => file 2 0 .readWrite
  | '<' :: _ => file 1 0 .read
  | '>' :: '>' :: _ => file 2 1 .append
  | '>' :: '&' :: _ => join 1
  | '>' :: '|' :: _ => file 2 1 .overwrite
  | _ => file 1 1 .write

/-! ## Reading tokens -/

/-- The operator at the start of a text. -/
def operator? (text : List Char) : Option Octets :=
  ["&&", "||", ";;", ";", "&", "|", "(", ")"].find? fun operator =>
    operator.toList.isPrefixOf text

/-- The token at the start of the text, before it is looked at what its word means. -/
def rawToken (commands : Bool → Reading Command) : Reading Token := do
  let source ← get
  match source.pending with
  | some token => do
    set { source with pending := none }
    return token
  | none => do
    skipBlanks
    match ← rest with
    | [] => return .finish
    | '\n' :: _ => do
      endLine
      return .newline
    | c :: others =>
      match operator? (c :: others) with
      | some text => do
        skip text.length
        return .operator text
      | none =>
        if c = '<' || c = '>' then return .redirect (← redirection commands none)
        else do
          let word ← word commands
          let isRedirected :=
            match ← rest with
            | '<' :: _ | '>' :: _ => true
            | _ => false
          match word.plainText?.map String.toList with
          | some [digit] =>
            if isRedirected && digit.isDigit then
              return .redirect (← redirection commands (naturalOf? [digit]))
            else return .word word
          | _ => return .word word

/-- The next token. -/
def token (commands : Bool → Reading Command) (attention : Attention) :
    (fuel : Nat) → Reading Token
  | 0 => return .finish
  | fuel + 1 => do
    let found ← rawToken commands
    match found with
    | .newline => if attention.lines then token commands attention fuel else return .newline
    | .word word =>
      match word.plainText? with
      | none => return found
      | some text =>
        if attention.keywords && keywords.contains text then return .keyword text
        let source ← get
        let left := source.rest.length
        let busy := source.busy.filter fun (_, after) => after < left
        match source.aliases.lookup text with
        | some meaning =>
          if attention.aliases && (busy.lookup text).isNone then do
            set { source with
              rest := meaning.toList ++ source.rest, busy := (text, left) :: busy }
            token commands attention fuel
          else return found
        | none => return found
    | _ => return found

def take (commands : Bool → Reading Command) (attention : Attention) : Reading Token := do
  token commands attention ((← rest).length + 1000)

/-- The next token, which is still to be taken. -/
def peek (commands : Bool → Reading Command) (attention : Attention) : Reading Token := do
  let found ← take commands attention
  modify fun source => { source with pending := some found }
  return found

def refuse (token : Token) (expected : Option Token) : Reading α :=
  fail (.unexpected token.name (expected.map Token.name))

/-- Takes a keyword or operator that has to come next. -/
def expect (commands : Bool → Reading Command) (attention : Attention) (expected : Token) :
    Reading Unit := do
  let found ← take commands attention
  if found.name = expected.name then return else refuse found (some expected)

/-! ## Commands -/

/-- The redirections after a compound command. -/
def redirects (commands : Bool → Reading Command) : (fuel : Nat) → Reading (List Redirect)
  | 0 => return []
  | fuel + 1 => do
    match ← peek commands commandStart with
    | .redirect _ => do
      match ← take commands commandStart with
      | .redirect redirect => return redirect :: (← redirects commands fuel)
      | _ => return []
    | _ => return []

/-- The words up to a token of another kind. -/
def words (commands : Bool → Reading Command) : (fuel : Nat) → Reading (List Word)
  | 0 => return []
  | fuel + 1 => do
    match ← peek commands {} with
    | .word _ => do
      match ← take commands {} with
      | .word word => return word :: (← words commands fuel)
      | _ => return []
    | _ => return []

/-- The patterns of a branch, up to the bracket after them. -/
def patterns (commands : Bool → Reading Command) : (fuel : Nat) → Reading (List Word)
  | 0 => return []
  | fuel + 1 => do
    let first ←
      match ← take commands {} with
      | .word first => pure first
      | .keyword text => pure [.text text false]
      | found => refuse found none
    match ← take commands {} with
    | .operator "|" => return first :: (← patterns commands fuel)
    | .operator ")" => return [first]
    | found => refuse found (some (.operator ")"))

/-- The rest of a simple command, after what was read of it before. -/
def simpleRest (commands : Bool → Reading Command) (compound : Reading Command) (line : Nat) :
    (fuel : Nat) → List (Octets × Word) → List Word → List Redirect → Reading Command
  | 0, assignments, words, redirects => return .simple line assignments words redirects
  | fuel + 1, assignments, words, redirects => do
    let attention : Attention := { aliases := words.isEmpty }
    match ← peek commands attention with
    | .word _ => do
      match ← take commands attention with
      | .word word =>
        match words, word.assignment? with
        | [], some assignment =>
          simpleRest commands compound line fuel (assignments ++ [assignment]) [] redirects
        | _, _ => simpleRest commands compound line fuel assignments (words ++ [word]) redirects
      | found => refuse found none
    | .redirect _ => do
      match ← take commands attention with
      | .redirect redirect =>
        simpleRest commands compound line fuel assignments words (redirects ++ [redirect])
      | found => refuse found none
    | .operator "(" =>
      match words with
      | [name] =>
        if assignments.isEmpty && redirects.isEmpty then do
          let _ ← take commands attention
          expect commands {} (.operator ")")
          match name.plainText? with
          | some name =>
            if isName name && !specialCommands.contains name then
              return .function name (← compound)
            else fail .functionName
          | none => fail .functionName
        else return .simple line assignments words redirects
      | _ => return .simple line assignments words redirects
    | _ => return .simple line assignments words redirects

/-- What comes before a list of commands. -/
inductive ListPlace
  /-- Nothing: the commands of one line are read. -/
  | line
  /-- A list that must not be empty. -/
  | body
  /-- A list that may be empty. -/
  | branch
  deriving DecidableEq

/-- Puts a command after others. -/
def joined : Option Command → Command → Command
  | none, command => command
  | some first, command => .sequence first command

/-- A command that is carried out in the background. -/
def inBackground (line : Nat) : Command → Command
  | .pipeline parts _ => .pipeline parts true
  | .group _ body redirects => .background line body redirects
  | command => .background line command []

mutual

/-- Commands up to what ends the list, which is left; `first` holds those before. -/
def list : (fuel : Nat) → ListPlace → Option Command → Reading (Option Command)
  | 0, _, _ => fail .openQuote
  | fuel + 1, place, first => do
    let commands := enclosedText fuel
    let attention := if place = .line then commandStart else afterOperator
    let found ← peek commands attention
    match place, found with
    | .line, .newline => do
      let _ ← take commands attention
      return first
    | _, .finish => return first
    | _, _ =>
      if found.endsList && place ≠ .line && (first.isSome || place = .branch) then return first
      else do
        let line := (← get).line
        let next ← conditional fuel attention
        match ← peek commands {} with
        | .operator "&" => do
          let _ ← take commands {}
          list fuel place (some (joined first (inBackground line next)))
        | .operator ";" => do
          let _ ← take commands {}
          list fuel place (some (joined first next))
        | .newline | .finish => list fuel place (some (joined first next))
        | found =>
          if place = .line then refuse found none else return some (joined first next)

/-- The commands of a text, up to its end or else up to a closing bracket that is
taken too. -/
def enclosedText : (fuel : Nat) → (untilEnd : Bool) → Reading Command
  | 0, _ => fail .openQuote
  | fuel + 1, untilEnd => do
    let commands := enclosedText fuel
    let found ← list fuel .branch none
    if untilEnd then
      match ← take commands afterOperator with
      | .finish => return found.getD .nothing
      | other => refuse other none
    else do
      expect commands afterOperator (.operator ")")
      return found.getD .nothing

/-- A list that must not be empty, and the token after it. -/
def body : (fuel : Nat) → (closing : Token) → Reading Command
  | 0, _ => fail .openQuote
  | fuel + 1, closing => do
    let found ← list fuel .body none
    expect (enclosedText fuel) afterOperator closing
    return found.getD .nothing

/-- Pipelines joined by conditions, from left to right. -/
def conditional : (fuel : Nat) → Attention → Reading Command
  | 0, _ => fail .openQuote
  | fuel + 1, attention => do
    conditionalRest fuel (← pipeline fuel attention)

def conditionalRest : (fuel : Nat) → Command → Reading Command
  | 0, _ => fail .openQuote
  | fuel + 1, first => do
    let commands := enclosedText fuel
    match ← peek commands {} with
    | .operator "&&" => do
      let _ ← take commands {}
      conditionalRest fuel (.both first (← pipeline fuel afterOperator))
    | .operator "||" => do
      let _ ← take commands {}
      conditionalRest fuel (.either first (← pipeline fuel afterOperator))
    | _ => return first

def pipeline : (fuel : Nat) → Attention → Reading Command
  | 0, _ => fail .openQuote
  | fuel + 1, attention => do
    let commands := enclosedText fuel
    let isNegated := (← peek commands attention).isKeyword "!"
    if isNegated then do
      let _ ← take commands attention
    let first ← command fuel (if isNegated then commandStart else attention)
    let parts ← pipelineRest fuel
    let whole := if parts.isEmpty then first else .pipeline (first :: parts) false
    return if isNegated then .negated whole else whole

/-- The commands that the output of a command goes through. -/
def pipelineRest : (fuel : Nat) → Reading (List Command)
  | 0 => fail .openQuote
  | fuel + 1 => do
    let commands := enclosedText fuel
    match ← peek commands {} with
    | .operator "|" => do
      let _ ← take commands {}
      let next ← command fuel afterOperator
      return next :: (← pipelineRest fuel)
    | _ => return []

/-- A condition after its `if`. -/
def choiceRest : (fuel : Nat) → Reading Command
  | 0 => fail .openQuote
  | fuel + 1 => do
    let commands := enclosedText fuel
    let test ← body fuel (.keyword "then")
    let yes := (← list fuel .body none).getD .nothing
    match ← take commands afterOperator with
    | .keyword "fi" => return .choice test yes .nothing
    | .keyword "else" => return .choice test yes (← body fuel (.keyword "fi"))
    | .keyword "elif" => return .choice test yes (← choiceRest fuel)
    | found => refuse found (some (.keyword "fi"))

/-- The branches of a `case`, up to its end. -/
def branches : (fuel : Nat) → Reading (List (List Word × Command))
  | 0 => fail .openQuote
  | fuel + 1 => do
    let commands := enclosedText fuel
    let attention : Attention := { lines := true, keywords := true }
    match ← peek commands attention with
    | .keyword "esac" => do
      let _ ← take commands attention
      return []
    | found => do
      if found.isOperator "(" then do
        let _ ← take commands attention
      else if let .finish := found then refuse found none
      let patterns ← patterns commands ((← rest).length + 1)
      let found ← list fuel .branch none
      let branch := (patterns, found.getD .nothing)
      match ← take commands attention with
      | .operator ";;" => return branch :: (← branches fuel)
      | .keyword "esac" => return [branch]
      | found => refuse found (some (.operator ";;"))

/-- A command after its first token, if that makes it a compound one. -/
def compound : (fuel : Nat) → Token → Reading (Option Command)
  | 0, _ => fail .openQuote
  | fuel + 1, first => do
    let commands := enclosedText fuel
    let line := (← get).line
    match first with
    | .operator "(" => return some (.enclosed line (← body fuel (.operator ")")) [])
    | .keyword "\x7b" => return some (← body fuel (.keyword "\x7d"))
    | .keyword "if" => return some (← choiceRest fuel)
    | .keyword "while" => do
      let test ← body fuel (.keyword "do")
      return some (.loop true test (← body fuel (.keyword "done")))
    | .keyword "until" => do
      let test ← body fuel (.keyword "do")
      return some (.loop false test (← body fuel (.keyword "done")))
    | .keyword "for" => do
      let name ←
        match ← take commands {} with
        | .word word =>
          match word.plainText? with
          | some name => if isName name then pure name else fail .loopName
          | none => fail .loopName
        | _ => fail .loopName
      let words ←
        match ← peek commands afterOperator with
        | .keyword "in" => do
          let _ ← take commands afterOperator
          let words ← words commands ((← rest).length + 1)
          match ← take commands {} with
          | .newline | .operator ";" => pure ()
          | found => refuse found none
          pure words
        | found => do
          if found.isOperator ";" then do
            let _ ← take commands afterOperator
          pure [[.parameter "@" .value true]]
      expect commands afterOperator (.keyword "do")
      return some (.each name words (← body fuel (.keyword "done")))
    | .keyword "case" => do
      match ← take commands {} with
      | .word subject => do
        expect commands afterOperator (.keyword "in")
        return some (.matching subject (← branches fuel))
      | found => refuse found (some (.word []))
    | _ => return none

def command : (fuel : Nat) → Attention → Reading Command
  | 0, _ => fail .openQuote
  | fuel + 1, attention => do
    let commands := enclosedText fuel
    let found ← peek commands attention
    match found with
    | .word _ | .redirect _ =>
      simpleRest commands (command fuel afterOperator) (← get).line ((← rest).length + 2) [] [] []
    | _ => do
      let found ← take commands attention
      let line := (← get).line
      match ← compound fuel found with
      | none => refuse found none
      | some inner => do
        let redirects ← redirects commands ((← rest).length + 1)
        match inner, redirects with
        | .enclosed line body _, redirects => return .enclosed line body redirects
        | inner, [] => return inner
        | inner, redirects => return .group line inner redirects

end

end Reading

/-- What is left to be carried out of a text. -/
inductive NextLine
  | command (command : Option Command) (source : Source)
  | finished
  | faulty (fault : SyntaxFault)

/-- The commands of the next line, none if it is empty. -/
def Source.nextLine (source : Source) : NextLine :=
  if source.rest.isEmpty then .finished
  else
    match (Reading.list (8 * source.rest.length + 100) .line none).run source with
    | .ok (command, source) => .command command { source with pending := none }
    | .error fault => .faulty fault

end Overseer.Shell
