import Overseer.Machine.Program

/-!
# Tools

A tool is a program that does one thing with its arguments and with what it reads. The
first letters of its arguments may be options, anywhere among the others; a tool says which
ones it knows.
-/

namespace Overseer

/-- A program of the system: what it does, and the status that it ends with. -/
abbrev Tool := Invocation → Work Nat

namespace Tool

/-! ## Messages -/

/-- Writes a message. -/
def warn (invocation : Invocation) (message : Octets) : Work Unit := do
  let _ ← Work.write 2 (invocation.name ++ ": " ++ message ++ "\n")

/-- Ends with a message. -/
def fail (invocation : Invocation) (status : Nat) (message : Octets) : Work α := do
  warn invocation message
  Work.exit status

/-- Ends with a message about the arguments. -/
def misuse (invocation : Invocation) (status : Nat) (message : Octets) : Work α := do
  warn invocation message
  let _ ← Work.write 2 ("Try '" ++ invocation.name ++ " --help' for more information.\n")
  Work.exit status

/-- Writes what the tool puts out. -/
def put (invocation : Invocation) (octets : Octets) : Work Unit := do
  match ← Work.write 1 octets with
  | none => return
  | some fault => fail invocation 1 ("write error: " ++ fault.text)

/-- A name in a message, in quotes. -/
def quote (name : Octets) : Octets := "'" ++ name ++ "'"

/-- A name in a message, in quotes only if it has unusual characters. -/
def shown (name : Octets) : Octets :=
  let isPlain (c : Char) : Bool :=
    c.isAlphanum || ['%', '+', ',', '-', '.', '/', ':', '=', '@', '_', '^', '~', ']'].contains c
  if !name.isEmpty && name.toList.all isPlain then name
  else if name.contains '\'' then "\"" ++ name ++ "\""
  else quote name

def missingOperand (invocation : Invocation) (status : Nat) : Work α :=
  misuse invocation status "missing operand"

/-- Ends with a message if there are operands beyond a number of them. -/
def refuseExtra (invocation : Invocation) (status most : Nat) (operands : List Octets) :
    Work Unit := do
  match operands.drop most with
  | [] => return
  | extra :: _ => misuse invocation status ("extra operand " ++ quote extra)

/-! ## Options -/

/-- Whether an argument belongs to an option. -/
inductive Takes
  | nothing
  | needed
  | optional
  deriving DecidableEq

/-- An option: its letter, by which it is known, and its long name. One that has only a
long name has a letter that cannot be written. -/
structure OptionRule where
  letter : Char
  name : Octets := ""
  takes : Takes := .nothing

/-- What arguments come to. -/
structure Parsed where
  options : List (Char × Octets) := []
  operands : List Octets := []

namespace Parsed

def has (parsed : Parsed) (letter : Char) : Bool := parsed.options.any (·.1 = letter)

/-- The argument of the last option with a letter. -/
def value? (parsed : Parsed) (letter : Char) : Option Octets :=
  ((parsed.options.filter (·.1 = letter)).getLast?).map (·.2)

def values (parsed : Parsed) (letter : Char) : List Octets :=
  parsed.options.filterMap fun entry => if entry.1 = letter then some entry.2 else none

/-- The last of some options that exclude each other. -/
def lastOf (parsed : Parsed) (letters : List Char) : Option Char :=
  ((parsed.options.map (·.1)).filter letters.contains).getLast?

end Parsed

/-- The letters of the options that every tool has: for help and for the version. -/
def helpLetter : Char := '\x01'
def versionLetter : Char := '\x02'

def commonRules : List OptionRule := [⟨helpLetter, "help", .nothing⟩, ⟨versionLetter, "version", .nothing⟩]

/-- Takes the option with a long name, which may be cut short. -/
def longOption (rules : List OptionRule) (text : Octets) (words : List Octets) :
    Except Octets ((Char × Octets) × List Octets) := do
  let (name, value) := text.toList.span (· ≠ '=')
  let name := String.ofList name
  let found := rules.filter fun rule => !rule.name.isEmpty && rule.name.startsWith name
  let rule ←
    match rules.find? fun rule => !name.isEmpty && rule.name = name, found with
    | some rule, _ => .ok rule
    | none, [rule] => .ok rule
    | none, [] => .error ("unrecognized option '--" ++ text ++ "'")
    | none, _ =>
      let names := found.map fun rule => " '--" ++ rule.name ++ "'"
      .error ("option '--" ++ text ++ "' is ambiguous; possibilities:" ++ String.join names)
  match rule.takes, value, words with
  | .nothing, [], _ => return ((rule.letter, ""), words)
  | .nothing, _, _ => .error ("option '--" ++ rule.name ++ "' doesn't allow an argument")
  | _, _ :: value, _ => return ((rule.letter, String.ofList value), words)
  | .optional, [], _ => return ((rule.letter, ""), words)
  | .needed, [], argument :: words => return ((rule.letter, argument), words)
  | .needed, [], [] => .error ("option '--" ++ rule.name ++ "' requires an argument")

/-- Takes the options that the letters of a word stand for. -/
def shortOptions (rules : List OptionRule) : List Char → List Octets →
    Except Octets (List (Char × Octets) × List Octets)
  | [], words => .ok ([], words)
  | letter :: rest, words => do
    match rules.find? fun rule => rule.letter = letter && helpLetter.toNat + 2 < letter.toNat with
    | none => .error ("invalid option -- '" ++ String.singleton letter ++ "'")
    | some rule =>
      match rule.takes, rest, words with
      | .nothing, _, _ => do
        let (options, words) ← shortOptions rules rest words
        return ((letter, "") :: options, words)
      | .optional, _, _ => return ([(letter, String.ofList rest)], words)
      | .needed, [], argument :: words => return ([(letter, argument)], words)
      | .needed, [], [] =>
        .error ("option requires an argument -- '" ++ String.singleton letter ++ "'")
      | .needed, _, _ => return ([(letter, String.ofList rest)], words)

/-- Sorts arguments into options and operands. `fuel` bounds the arguments. The first
operand may end the options. -/
def parseWithin (rules : List OptionRule) (stopsEarly : Bool) : (fuel : Nat) → List Octets →
    Except Octets Parsed
  | 0, words => .ok { operands := words }
  | _, [] => .ok {}
  | fuel + 1, word :: words =>
    match word.toList with
    | ['-', '-'] => .ok { operands := words }
    | '-' :: '-' :: _ => do
      let (option, words) ← longOption rules (word.drop 2).toString words
      let parsed ← parseWithin rules stopsEarly fuel words
      return { parsed with options := option :: parsed.options }
    | '-' :: letter :: letters => do
      let (options, words) ← shortOptions rules (letter :: letters) words
      let parsed ← parseWithin rules stopsEarly fuel words
      return { parsed with options := options ++ parsed.options }
    | _ =>
      if stopsEarly then .ok { operands := word :: words }
      else do
        let parsed ← parseWithin rules stopsEarly fuel words
        return { parsed with operands := word :: parsed.operands }

/-- Sorts the arguments of a tool into options and operands. It ends here if help is asked
for, or with the given status if the arguments are not right. -/
def parse (invocation : Invocation) (rules : List OptionRule) (status : Nat)
    (stopsEarly : Bool) : Work Parsed := do
  let arguments := invocation.arguments
  match parseWithin (rules ++ commonRules) stopsEarly (arguments.length + 1) arguments with
  | .error message => misuse invocation status message
  | .ok parsed =>
    match parsed.lastOf [helpLetter, versionLetter] with
    | none => return parsed
    | some letter => do
      put invocation
        (if letter = helpLetter then "Usage: " ++ invocation.name ++ " [OPTION]... [ARGUMENT]...\n"
        else invocation.name ++ " (system tools) 9.4\n")
      Work.exit 0

/-- Sorts the arguments of a tool, options anywhere among them. -/
def arguments (invocation : Invocation) (rules : List OptionRule) : Work Parsed :=
  parse invocation rules 1 false

end Tool

end Overseer
