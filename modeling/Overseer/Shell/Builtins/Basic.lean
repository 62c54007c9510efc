import Overseer.Number.Leading
import Overseer.Shell.Redirection

/-!
# Commands of the shell itself

A `Builtin` is a command that the shell carries out in its own process. The special ones
keep assignments before them, and their failure ends the shell.
-/

namespace Overseer.Shell

structure Builtin where
  name : Octets
  isSpecial : Bool := false
  /-- Whether arguments may be assignments, which are not split into fields. -/
  takesAssignments : Bool := false
  /-- Carries out the command with arguments, and gives its status. -/
  run : Interpreter → Surroundings → List Octets → Script Nat

namespace Builtin

/-- Writes what a command puts out, and gives the status that it ends with. -/
def say (octets : Octets) (status : Nat) : Script Nat := do
  match ← Work.write 1 octets with
  | none => return status
  | some _ => do
    let name := (← get).commandName.getD ""
    Script.warn (name ++ ": I/O error")
    return status ||| 1

/-- Writes a message as it stands. -/
def complain (message : Octets) : Script Unit := do
  let _ ← Work.write 2 (message ++ "\n")

/-- The natural number that a word writes. -/
def number (word : Octets) : Script Nat := do
  let bad := Script.fail ("Illegal number: " ++ word)
  match leadingInteger? false word.toList with
  | some (value, rest) =>
    if rest.all isSpacing && 0 ≤ value && value ≤ 2147483647 then return value.toNat else bad
  | none => bad

/-! ## Options -/

/-- Takes the letters of one word of options. Gives them with their arguments, and the
words after. -/
def letters (known : List (Char × Bool)) : List Char → List Octets →
    Script (List (Char × Octets) × List Octets)
  | [], words => return ([], words)
  | letter :: rest, words => do
    match known.lookup letter with
    | none => Script.fail ("Illegal option -" ++ String.singleton letter)
    | some false => do
      let (found, words) ← letters known rest words
      return ((letter, "") :: found, words)
    | some true =>
      match rest, words with
      | [], [] => Script.fail ("No arg for -" ++ String.singleton letter ++ " option")
      | [], argument :: words => return ([(letter, argument)], words)
      | rest, words => return ([(letter, String.ofList rest)], words)

/-- Takes the options at the start of some words, of which at most so many are looked at. -/
def optionsWithin (known : List (Char × Bool)) : (fuel : Nat) → List Octets →
    Script (List (Char × Octets) × List Octets)
  | 0, words => return ([], words)
  | _, [] => return ([], [])
  | fuel + 1, word :: words => do
    match word.toList with
    | ['-', '-'] => return ([], words)
    | '-' :: letter :: rest => do
      let (first, words) ← letters known (letter :: rest) words
      let (others, words) ← optionsWithin known fuel words
      return (first ++ others, words)
    | _ => return ([], word :: words)

/-- Takes the options at the start of some words. Each letter is known with whether an
argument belongs to it. -/
def options (known : List (Char × Bool)) (words : List Octets) :
    Script (List (Char × Octets) × List Octets) :=
  optionsWithin known words.length words

/-- The words after a mark that ends the options. -/
def operands (words : List Octets) : Script (List Octets) := do return (← options [] words).2

/-- A text in quotes: single ones, and double ones around the single quotes in it. -/
def quotedWithin : (fuel : Nat) → List Char → List Char
  | 0, _ => []
  | fuel + 1, text =>
    let (plain, rest) := text.span (· ≠ '\'')
    let (quotes, rest) := rest.span (· = '\'')
    let first := '\'' :: plain ++ ['\'']
    if quotes.isEmpty then first
    else
      let second := '"' :: quotes ++ ['"']
      first ++ second ++ if rest.isEmpty then [] else quotedWithin fuel rest

def quoted (text : Octets) : Octets :=
  String.ofList (quotedWithin (text.length + 1) text.toList)

end Builtin

end Overseer.Shell
