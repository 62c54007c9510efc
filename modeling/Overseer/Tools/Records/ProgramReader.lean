import Overseer.Pattern.RegexReader
import Overseer.Tools.Records.Token

/-!
# Reading record programs

The signs of an expression bind, from the least to the most: choices, `||`, `&&`, keys,
matches, comparisons, joining, sums, products, signs in front, commands to read from, and
powers. An assignment may stand wherever something that is compared may.
-/

namespace Overseer.Records

/-- The tokens that are still to be read, and the line of the last one that was. -/
structure TokenRow where
  line : Nat := 1
  rest : List Lexeme

abbrev Reading := StateT TokenRow (Except SyntaxFault)

/-- What stands around a statement. -/
structure Surroundings where
  inLoop : Bool := false
  inFunction : Bool := false
  /-- Whether it is done once for each record. -/
  hasRecord : Bool := false

namespace Reading

/-! ## Tokens -/

def peek : Reading (Option Token) := do return ((← get).rest.head?).map (·.token)

/-- The next tokens, as many as ever matter. -/
def upcoming : Reading (List Token) := do return ((← get).rest.take 4).map (·.token)

def advance : Reading Unit :=
  modify fun row => ⟨(row.rest.head?.map (·.line)).getD row.line, row.rest.tail⟩

/-- Gives up with a message. -/
def refuse (text : Octets) : Reading α := do throw ⟨(← get).line, text⟩

/-- Gives up at the next token. -/
def unexpected : Reading α := do
  match (← get).rest with
  | [] => refuse "missing \x7d near end of file"
  | next :: _ =>
    throw ⟨next.line, "syntax error at or near " ++ next.token.shown⟩

/-- Takes a sign, if it comes next. -/
def takesSign (sign : Octets) : Reading Bool := do
  match ← peek with
  | some (.sign next) => if next = sign then do advance; return true else return false
  | _ => return false

def takesWord (word : Octets) : Reading Bool := do
  match ← peek with
  | some (.word next) => if next = word then do advance; return true else return false
  | _ => return false

def expect (sign : Octets) : Reading Unit := do
  if ← takesSign sign then return else unexpected

def takeName : Reading Octets := do
  match ← peek with
  | some (.name name) => do
    advance
    return name
  | _ => unexpected

def skipLineEnds : Reading Unit :=
  modify fun row =>
    { row with
      rest := row.rest.dropWhile fun next =>
        match next.token with
        | .ending isLineEnd => isLineEnd
        | _ => false }

/-- Takes the end of a statement. -/
def endStatement : Reading Unit := do
  match ← peek with
  | some (.ending _) => advance
  | _ => unexpected

/-! ## Rows of values -/

/-- Values with commas between them. -/
def rowOf (value : Reading Expr) : Reading (List Expr) := do
  let first ← value
  go (← get).rest.length [first]
where
  go : (fuel : Nat) → List Expr → Reading (List Expr)
    | 0, taken => return taken.reverse
    | fuel + 1, taken => do
      if ← takesSign "," then go fuel ((← value) :: taken) else return taken.reverse

/-- Values with one of some signs between them, put together from the left. -/
def chain (value : Reading Expr) (signs : List (Octets × (Expr → Expr → Expr))) :
    Reading Expr := do
  let first ← value
  go (← get).rest.length first
where
  go : (fuel : Nat) → Expr → Reading Expr
    | 0, left => return left
    | fuel + 1, left => do
      match ← peek with
      | some (.sign sign) =>
        match signs.lookup sign with
        | some combine => do
          advance
          go fuel (combine left (← value))
        | none => return left
      | _ => return left

/-- Whether a value may begin with a token. A sign in front of one would have been taken
for a sum. -/
def beginsValue : Token → Bool
  | .number _ | .text _ | .regex _ | .name _ | .called _ | .builtin _ => true
  | .word word => word = "getline"
  | .sign sign => ["$", "!", "(", "-", "+", "++", "--"].contains sign
  | .ending _ => false

/-- Values that stand one after another, and are joined. -/
def joined (value : Reading Expr) : Reading Expr := do
  let first ← value
  go (← get).rest.length first
where
  go : (fuel : Nat) → Expr → Reading Expr
    | 0, left => return left
    | fuel + 1, left => do
      if (← peek).any beginsValue then go fuel (.joined left (← value)) else return left

/-- A value that may be asked for as the key of tables. -/
def asKey (value : Reading Expr) : Reading Expr := do
  let first ← value
  go (← get).rest.length first
where
  go : (fuel : Nat) → Expr → Reading Expr
    | 0, left => return left
    | fuel + 1, left => do
      if ← takesWord "in" then go fuel (.isKey [left] (← takeName)) else return left

/-! ## Signs -/

def eithers : List (Octets × (Expr → Expr → Expr)) := [("||", .either)]
def boths : List (Octets × (Expr → Expr → Expr)) := [("&&", .both)]
def matchings : List (Octets × (Expr → Expr → Expr)) :=
  [("~", .match true), ("!~", .match false)]

/-- The signs that compare. The one for more may have another meaning. -/
def comparisons (hasMore : Bool) : List (Octets × (Expr → Expr → Expr)) :=
  [("<", .compare .less), ("<=", .compare .atMost), ("==", .compare .equal),
   ("!=", .compare .different), (">=", .compare .atLeast)] ++
    if hasMore then [(">", .compare .more)] else []

def sums : List (Octets × (Expr → Expr → Expr)) :=
  [("+", .arithmetic .add), ("-", .arithmetic .subtract)]

def products : List (Octets × (Expr → Expr → Expr)) :=
  [("*", .arithmetic .multiply), ("/", .arithmetic .divide), ("%", .arithmetic .remainder)]

/-- The operations of the signs that assign. -/
def assignments : List (Octets × Option Arithmetic) :=
  [("=", none), ("+=", some .add), ("-=", some .subtract), ("*=", some .multiply),
   ("/=", some .divide), ("%=", some .remainder), ("^=", some .power)]

/-- The expression that a text writes. -/
def regexOf? (source : List Char) : Option Regex :=
  Regex.read? { extended := true, namesControls := true, plainLetters := true } source

/-- The least and greatest number of arguments of a builtin. -/
def arity : Builtin → Nat × Nat
  | .length => (0, 1)
  | .part => (2, 3)
  | .split => (2, 3)
  | .replace | .replaceAll => (2, 3)
  | .index | .search | .angle => (2, 2)
  | .format => (1, 1000)
  | .random | .seconds => (0, 0)
  | .seed | .flush => (0, 1)
  | .date => (0, 3)
  | _ => (1, 1)

/-- Whether a builtin can do with arguments: some put something in the place that one of
them is. -/
def suits : Builtin → List Expr → Bool
  | .replace, [_, _, target] | .replaceAll, [_, _, target] => (target matches .place _)
  | .split, _ :: table :: _ => (table matches .place (.named _))
  | builtin, arguments =>
    let (least, most) := arity builtin
    least ≤ arguments.length && arguments.length ≤ most

mutual

/-- An expression. Without `hasMore`, the sign for more ends it. -/
def expr : (fuel : Nat) → (hasMore : Bool) → Reading Expr
  | 0, _ => unexpected
  | fuel + 1, hasMore => do
    let compared := chain (operand fuel hasMore) (comparisons hasMore)
    let test ← chain (chain (asKey (chain compared matchings)) boths) eithers
    if ← takesSign "?" then do
      let yes ← expr fuel hasMore
      expect ":"
      return .choice test yes (← expr fuel hasMore)
    else return test

/-- What is compared: values that are joined, or an assignment. -/
def operand : (fuel : Nat) → (hasMore : Bool) → Reading Expr
  | 0, _ => unexpected
  | fuel + 1, hasMore => do
    let left ← joined (chain (chain (signed fuel) products) sums)
    match left, ← peek with
    | .place place, some (.sign sign) =>
      match assignments.lookup sign with
      | some operation => do
        advance
        return .assign place operation (← expr fuel hasMore)
      | none => return left
    | _, _ => return left

/-- A value with signs in front of it. -/
def signed : (fuel : Nat) → Reading Expr
  | 0 => unexpected
  | fuel + 1 => do
    if ← takesSign "!" then return .opposite (← signed fuel)
    else if ← takesSign "-" then return .negated (← signed fuel)
    else if ← takesSign "+" then return .positive (← signed fuel)
    else
      let first ← power fuel
      piped fuel (← get).rest.length first

/-- Goes on with the records that are read from a command. -/
def piped : (fuel : Nat) → (rounds : Nat) → Expr → Reading Expr
  | 0, _, _ => unexpected
  | _, 0, command => return command
  | fuel + 1, rounds + 1, command => do
    match ← upcoming with
    | .sign "|" :: .word "getline" :: _ => do
      advance
      advance
      let place ← place? fuel
      piped fuel rounds (.readRecord (.command command) place)
    | _ => return command

def power : (fuel : Nat) → Reading Expr
  | 0 => unexpected
  | fuel + 1 => do
    let base ← stepped fuel
    if ← takesSign "^" then
      match ← peek with
      | some (.sign "-") | some (.sign "+") | some (.sign "!") =>
        return .arithmetic .power base (← signed fuel)
      | _ => return .arithmetic .power base (← power fuel)
    else return base

/-- A value, or a place that is added to afterwards. -/
def stepped : (fuel : Nat) → Reading Expr
  | 0 => unexpected
  | fuel + 1 => do
    match ← primary fuel with
    | .place place => do
      if ← takesSign "++" then return .step place 1 true
      else if ← takesSign "--" then return .step place (-1) true
      else return .place place
    | value => return value

/-- A place, if one comes next. -/
def place? : (fuel : Nat) → Reading (Option Place)
  | 0 => unexpected
  | fuel + 1 => do
    match ← peek with
    | some (.name name) => do
      advance
      if ← takesSign "[" then do
        let subscripts ← rowOf (expr fuel true)
        expect "]"
        return some (.element name subscripts)
      else return some (.named name)
    | some (.sign "$") => do
      advance
      match ← peek with
      | some (.sign "-") | some (.sign "+") | some (.sign "!") =>
        return some (.field (← signed fuel))
      | _ => return some (.field (← primary fuel))
    | _ => return none

/-- A value without signs around it. -/
def primary : (fuel : Nat) → Reading Expr
  | 0 => unexpected
  | fuel + 1 => do
    match ← place? fuel with
    | some place => return .place place
    | none =>
      match ← peek with
      | some (.number value) => do
        advance
        return .number value
      | some (.text octets) => do
        advance
        return .text octets
      | some (.regex source) =>
        match regexOf? source with
        | some regex => do
          advance
          return .regex regex
        | none =>
          refuse ("regular expression compile failed (syntax error)\n" ++ String.ofList source)
      | some (.sign "(") => do
        advance
        let items ← rowOf (expr fuel true)
        expect ")"
        match items with
        | [item] => return item
        | _ => if ← takesWord "in" then return .isKey items (← takeName) else return .row items
      | some (.sign "++") => do
        advance
        changed fuel 1
      | some (.sign "--") => do
        advance
        changed fuel (-1)
      | some (.word "getline") => do
        advance
        let place ← place? fuel
        if ← takesSign "<" then return .readRecord (.file (← power fuel)) place
        else return .readRecord .input place
      | some (.called name) => do
        advance
        return .call name (← arguments fuel)
      | some (.builtin builtin) => do
        advance
        let arguments ←
          match builtin, ← peek with
          | .length, some (.sign "(") => arguments fuel
          | .length, _ => pure []
          | _, _ => arguments fuel
        if suits builtin arguments then return .apply builtin arguments
        else refuse ("wrong number of arguments in call to " ++ (Token.builtin builtin).shown)
      | _ => unexpected

/-- A place that is added to before its value is taken. -/
def changed : (fuel : Nat) → (amount : Float) → Reading Expr
  | 0, _ => unexpected
  | fuel + 1, amount => do
    match ← place? fuel with
    | some place => return .step place amount false
    | none => unexpected

/-- Arguments in brackets. -/
def arguments : (fuel : Nat) → Reading (List Expr)
  | 0 => unexpected
  | fuel + 1 => do
    expect "("
    if ← takesSign ")" then return []
    else do
      let values ← rowOf (expr fuel true)
      expect ")"
      return values

end

/-! ## Statements -/

/-- What is put out, and where it goes. -/
def output (fuel : Nat) : Reading (List Expr × Option (Outlet × Expr)) := do
  let values ←
    match ← peek with
    | some (.ending _) | some (.sign ">") | some (.sign ">>") | some (.sign "|") => pure []
    | _ => rowOf (expr fuel false)
  let values :=
    match values with
    | [.row items] => items
    | _ => values
  let target ←
    if ← takesSign ">" then pure (some (Outlet.file, ← expr fuel true))
    else if ← takesSign ">>" then pure (some (Outlet.endOfFile, ← expr fuel true))
    else if ← takesSign "|" then pure (some (Outlet.command, ← expr fuel true))
    else pure none
  endStatement
  return (values, target)

/-- An expression, if the statement does not end here. -/
def exprBeforeEnd (fuel : Nat) : Reading (Option Expr) := do
  match ← peek with
  | some (.ending _) => do
    advance
    return none
  | _ => do
    let value ← expr fuel true
    endStatement
    return some value

/-- A condition in brackets. -/
def condition (fuel : Nat) : Reading Expr := do
  expect "("
  let test ← expr fuel true
  expect ")"
  return test

mutual

def statement : (fuel : Nat) → Surroundings → Reading Statement
  | 0, _ => unexpected
  | fuel + 1, around => do
    match ← peek with
    | some (.sign sign) => if sign = Token.opening then block fuel around else evaluation fuel
    | some (.ending _) => do
      advance
      return .nothing
    | some (.word "getline") => evaluation fuel
    | some (.word word) => do
      advance
      ruled fuel around word
    | _ => evaluation fuel

/-- An expression that is a statement. -/
def evaluation : (fuel : Nat) → Reading Statement
  | 0 => unexpected
  | fuel + 1 => do
    let value ← expr fuel true
    endStatement
    return .evaluate value

/-- The statement that a word begins. -/
def ruled : (fuel : Nat) → Surroundings → (word : Octets) → Reading Statement
  | 0, _, _ => unexpected
  | fuel + 1, around, word => do
    let inLoop : Surroundings := { around with inLoop := true }
    match word with
    | "print" => do
      let (values, target) ← output fuel
      return .print values target
    | "printf" => do
      let (values, target) ← output fuel
      if values.isEmpty then refuse "no arguments in call to printf"
      else return .printFormatted values target
    | "if" => do
      let test ← condition fuel
      skipLineEnds
      let yes ← statement fuel around
      if ← takesWord "else" then return .choice test yes (← statement fuel around)
      else return .choice test yes .nothing
    | "while" => do
      let test ← condition fuel
      skipLineEnds
      return .loop (some test) .nothing (← statement fuel inLoop)
    | "do" => do
      let body ← statement fuel inLoop
      if ← takesWord "while" then do
        let test ← condition fuel
        endStatement
        return .loopAfter body test
      else unexpected
    | "for" => do
      expect "("
      forLoop fuel inLoop
    | "break" =>
      if around.inLoop then do
        endStatement
        return .leave
      else refuse "break statement outside of loop"
    | "continue" =>
      if around.inLoop then do
        endStatement
        return .again
      else refuse "continue statement outside of loop"
    | "next" | "nextfile" =>
      if around.hasRecord || around.inFunction then do
        endStatement
        return if word = "next" then .next else .nextFile
      else refuse ("improper use of " ++ word)
    | "exit" => return .exit (← exprBeforeEnd fuel)
    | "return" =>
      if around.inFunction then return .return (← exprBeforeEnd fuel)
      else refuse "return outside function body"
    | "delete" => do
      let table ← takeName
      let subscripts ←
        if ← takesSign "[" then do
          let subscripts ← rowOf (expr fuel true)
          expect "]"
          pure (some subscripts)
        else pure none
      endStatement
      return .delete table subscripts
    | _ => do
      refuse ("syntax error at or near " ++ word)

/-- A loop over the keys of a table, or one with a start, a test and a step. -/
def forLoop : (fuel : Nat) → Surroundings → Reading Statement
  | 0, _ => unexpected
  | fuel + 1, around => do
    match ← upcoming with
    | .name name :: .word "in" :: .name table :: .sign ")" :: _ => do
      advance
      advance
      advance
      advance
      skipLineEnds
      return .overKeys (.named name) table (← statement fuel around)
    | _ => do
      let start ← exprBeforeEnd fuel
      let test ← exprBeforeEnd fuel
      let step ←
        if ← takesSign ")" then pure Statement.nothing
        else do
          let step ← expr fuel true
          expect ")"
          pure (Statement.evaluate step)
      skipLineEnds
      let loop := Statement.loop test step (← statement fuel around)
      match start with
      | none => return loop
      | some start => return .block [.evaluate start, loop]

/-- Statements between the brackets of a block. -/
def block : (fuel : Nat) → Surroundings → Reading Statement
  | 0, _ => unexpected
  | fuel + 1, around => do
    expect Token.opening
    statements fuel around []

/-- The statements up to the end of a block, after the ones taken already. -/
def statements : (fuel : Nat) → Surroundings → List Statement → Reading Statement
  | 0, _, _ => unexpected
  | fuel + 1, around, taken => do
    if ← takesSign Token.closing then return .block taken.reverse
    else
      let further ← statement fuel around
      statements fuel around (further :: taken)

end

/-! ## Programs -/

def parameters (fuel : Nat) : Reading (List Octets) := do
  expect "("
  if ← takesSign ")" then return []
  else do
    let first ← takeName
    go fuel [first]
where
  go : (fuel : Nat) → List Octets → Reading (List Octets)
    | 0, _ => unexpected
    | fuel + 1, taken => do
      if ← takesSign "," then go fuel ((← takeName) :: taken)
      else do
        expect ")"
        return taken.reverse

/-- What is done by a rule, if that is said. -/
def action (fuel : Nat) : Reading (Option Statement) := do
  match ← peek with
  | none => return none
  | some (.ending _) => do
    advance
    return none
  | _ => return some (← block fuel { hasRecord := true })

/-- Takes a rule or a function. -/
def item (fuel : Nat) (program : Program) : Reading Program := do
  let withRule (selector : Selector) (action : Option Statement) : Program :=
    { program with rules := ⟨selector, action⟩ :: program.rules }
  if ← takesWord "BEGIN" then return withRule .beginning (some (← block fuel {}))
  else if ← takesWord "END" then return withRule .ending (some (← block fuel {}))
  else if ← takesWord "function" then do
    let name ←
      match ← peek with
      | some (.called name) | some (.name name) => do
        advance
        pure name
      | _ => unexpected
    let parameters ← parameters fuel
    skipLineEnds
    let body ← block fuel { inFunction := true }
    return { program with functions := ⟨name, parameters, body⟩ :: program.functions }
  else
    match ← peek with
    | some (.sign sign) =>
      if sign = Token.opening then return withRule .every (← action fuel) else selected withRule
    | _ => selected withRule
where
  selected (withRule : Selector → Option Statement → Program) : Reading Program := do
    let first ← expr fuel true
    if ← takesSign "," then do
      let last ← expr fuel true
      return withRule (.range first last) (← action fuel)
    else return withRule (.when first) (← action fuel)

/-- The rules and functions that are left, after the ones taken already. -/
def items (fuel : Nat) : (rounds : Nat) → Program → Reading Program
  | 0, program => return program
  | rounds + 1, program => do
    match ← peek with
    | none => return ⟨program.rules.reverse, program.functions.reverse⟩
    | some _ => items fuel rounds (← item fuel program)

end Reading

/-- The functions that are written in a program. -/
def declaredNames : List Token → List Octets
  | .word "function" :: .name name :: rest | .word "function" :: .called name :: rest =>
    name :: declaredNames rest
  | _ :: rest => declaredNames rest
  | [] => []

/-- Marks the names of functions that stand apart from their arguments. -/
def markCalls (declared : List Octets) : List Lexeme → List Lexeme
  | [] => []
  | first :: rest =>
    let following : Option Token := rest.head?.map (·.token)
    match first.token, following with
    | .name name, some (.sign "(") =>
      if declared.contains name then ⟨first.line, .called name⟩ :: markCalls declared rest
      else first :: markCalls declared rest
    | _, _ => first :: markCalls declared rest

/-- The program that a text writes. -/
def Program.read (text : Octets) : Except SyntaxFault Program := do
  let lexemes ← Lexeme.ofText text
  let declared := declaredNames (lexemes.map (·.token))
  let lexemes := markCalls declared lexemes
  let fuel := 12 * lexemes.length + 20
  let rest := lexemes.dropWhile fun lexeme =>
    match lexeme.token with
    | .ending isLineEnd => isLineEnd
    | _ => false
  let (program, _) ← (Reading.items fuel (lexemes.length + 1) {}).run { rest }
  let undeclared := lexemes.find? fun lexeme =>
    match lexeme.token with
    | .called name => !declared.contains name
    | _ => false
  match undeclared with
  | some lexeme =>
    throw ⟨(lexemes.getLast?.map (·.line)).getD 1 + 1,
      "function " ++ lexeme.token.shown ++ " never defined"⟩
  | none => return program

end Overseer.Records
