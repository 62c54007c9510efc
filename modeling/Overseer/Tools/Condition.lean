import Overseer.Machine.Course
import Overseer.Files.Change
import Overseer.Number.Leading

/-!
# Conditions

A row of words that says something about texts, numbers and files, joined by `!`, `-a`,
`-o` and brackets. `Condition.holds` says whether it is so, or what is wrong with the
words.
-/

namespace Overseer

/-- What a condition is about: the files, the folder that paths start at, and the numbers
under which something is open. -/
structure Facts where
  tree : FileTree
  folder : Nat
  descriptors : Descriptors

namespace Condition

inductive Operator
  | unary
  | binary
  | not
  | and
  | or
  | opening
  | closing
  deriving DecidableEq

def unaryNames : List Octets :=
  ["-r", "-w", "-x", "-e", "-f", "-d", "-c", "-b", "-p", "-u", "-g", "-k", "-s", "-t", "-z", "-n",
   "-h", "-L", "-O", "-G", "-S"]

def binaryNames : List Octets :=
  ["=", "!=", "<", ">", "-eq", "-ne", "-ge", "-gt", "-le", "-lt", "-nt", "-ot", "-ef"]

def operator? (word : Octets) : Option Operator :=
  if unaryNames.contains word then some .unary
  else if binaryNames.contains word then some .binary
  else
    match word with
    | "!" => some .not
    | "-a" => some .and
    | "-o" => some .or
    | "(" => some .opening
    | ")" => some .closing
    | _ => none

/-- The operator at the start of some words. One that may be an operand, as what follows
shows, is taken for that. -/
def operatorAt? : List Octets → Option Operator
  | [] => none
  | word :: rest =>
    match operator? word, rest with
    | some .unary, [] => none
    | some .unary, next :: _ :: _ => if operator? next = some .binary then none else some .unary
    | some .opening, [] => none
    | found, _ => found

/-! ## Facts -/

/-- The number that a word writes. -/
def number (word : Octets) : Except Octets Int :=
  match leadingInteger? false word.toList with
  | some (value, rest) =>
    if rest.all isSpacing then .ok value else .error ("Illegal number: " ++ word)
  | none => .error ("Illegal number: " ++ word)

def nodeOf? (facts : Facts) (path : Octets) (follow : Bool) : Option Nat :=
  (facts.tree.find facts.folder path follow).toOption

/-- Whether a file is there and is as it should be. -/
def isSuch (facts : Facts) (path : Octets) (test : Nat → NodeKind → Bool) : Bool :=
  (nodeOf? facts path true).any fun id => test id (facts.tree.kind id)

def unary (facts : Facts) (operator operand : Octets) : Except Octets Bool :=
  match operator with
  | "-z" => .ok operand.isEmpty
  | "-n" => .ok !operand.isEmpty
  | "-t" => (number operand).map fun _ => false
  | "-h" | "-L" =>
    .ok ((nodeOf? facts operand false).any fun id => facts.tree.kind id matches .link _)
  | "-f" => .ok (isSuch facts operand fun _ kind => kind matches .file _)
  | "-d" => .ok (isSuch facts operand fun _ kind => kind matches .folder ..)
  | "-c" => .ok (isSuch facts operand fun _ kind => kind matches .device _)
  | "-b" | "-p" | "-S" => .ok false
  | "-s" =>
    .ok (isSuch facts operand fun id _ =>
      facts.tree.isFolder id || ((facts.tree.content id).toOption.getD .empty).size ≠ 0)
  | "-x" =>
    .ok (isSuch facts operand fun id _ => facts.tree.isFolder id || facts.tree.isExecutable id)
  | "-u" => .ok (isSuch facts operand fun id _ => (facts.tree.node id).mode &&& 0o4000 ≠ 0)
  | "-g" => .ok (isSuch facts operand fun id _ => (facts.tree.node id).mode &&& 0o2000 ≠ 0)
  | "-k" => .ok (isSuch facts operand fun id _ => (facts.tree.node id).mode &&& 0o1000 ≠ 0)
  | _ => .ok (isSuch facts operand fun _ _ => true)

/-- Whether the first of two files is there and was changed later, or the second is not
there. -/
def isNewer (facts : Facts) (first second : Octets) : Bool :=
  let time (id : Nat) : Nat := (facts.tree.node id).changedAt.nanos
  match nodeOf? facts first true, nodeOf? facts second true with
  | some first, some second => time second < time first
  | some _, none => true
  | none, _ => false

def binary (facts : Facts) (first operator second : Octets) : Except Octets Bool :=
  let compare (test : Int → Int → Bool) : Except Octets Bool := do
    return test (← number first) (← number second)
  match operator with
  | "=" => .ok (first = second)
  | "!=" => .ok (first ≠ second)
  | "<" => .ok (Octets.isBefore first second)
  | ">" => .ok (Octets.isBefore second first)
  | "-eq" => compare (· = ·)
  | "-ne" => compare (· ≠ ·)
  | "-ge" => compare (· ≥ ·)
  | "-gt" => compare (· > ·)
  | "-le" => compare (· ≤ ·)
  | "-lt" => compare (· < ·)
  | "-nt" => .ok (isNewer facts first second)
  | "-ot" => .ok (isNewer facts second first)
  | _ =>
    .ok (match nodeOf? facts first true, nodeOf? facts second true with
      | some first, some second => first = second
      | _, _ => false)

/-! ## Words -/

/-- What was read, and the words from the last one that belongs to it on. -/
abbrev Read := Except Octets (Bool × List Octets)

mutual

/-- Parts joined by `-o`. -/
def either (facts : Facts) : (fuel : Nat) → Option Operator → List Octets → Read
  | 0, _, words => .ok (false, words)
  | fuel + 1, operator, words => do
    let (first, words) ← both facts fuel operator words
    if operatorAt? (words.drop 1) = some .or then do
      let words := words.drop 2
      let (second, words) ← either facts fuel (operatorAt? words) words
      return (first || second, words)
    else return (first, words)

/-- Parts joined by `-a`. -/
def both (facts : Facts) : (fuel : Nat) → Option Operator → List Octets → Read
  | 0, _, words => .ok (false, words)
  | fuel + 1, operator, words => do
    let (first, words) ← negated facts fuel operator words
    if operatorAt? (words.drop 1) = some .and then do
      let words := words.drop 2
      let (second, words) ← both facts fuel (operatorAt? words) words
      return (first && second, words)
    else return (first, words)

/-- A part with or without `!` before it. -/
def negated (facts : Facts) : (fuel : Nat) → Option Operator → List Octets → Read
  | 0, _, words => .ok (false, words)
  | fuel + 1, operator, words => do
    if operator = some .not then do
      let rest := words.drop 1
      let (value, words) ← negated facts fuel (operatorAt? rest) (if rest.isEmpty then words else rest)
      return (!value, words)
    else single facts fuel operator words

/-- A part that is not joined from others. -/
def single (facts : Facts) : (fuel : Nat) → Option Operator → List Octets → Read
  | 0, _, words => .ok (false, words)
  | fuel + 1, operator, words =>
    match operator, words with
    | _, [] => .ok (false, words)
    | some .opening, _ :: rest =>
      if operatorAt? rest = some .closing then .ok (false, rest)
      else do
        let (value, words) ← either facts fuel (operatorAt? rest) rest
        if operatorAt? (words.drop 1) = some .closing then return (value, words.drop 1)
        else .error "closing paren expected"
    | some .unary, name :: rest =>
      match rest with
      | [] => .error (name ++ ": argument expected")
      | operand :: _ => do return (← unary facts name operand, rest)
    | _, first :: rest =>
      if operatorAt? rest = some .binary then
        match rest with
        | name :: second :: after => do
          return (← binary facts first name second, second :: after)
        | name :: _ => .error (name ++ ": argument expected")
        | [] => .ok (false, rest)
      else .ok (!first.isEmpty, words)

end

/-- Whether what the words say is so. Three words with an operator in the middle are about
its operands, whatever these look like. -/
def holds (facts : Facts) (words : List Octets) : Except Octets Bool := do
  if words.isEmpty then return false
  let isJoined : Bool :=
    match words with
    | [_, operator, _] => operator? operator = some .binary
    | _ => false
  let isShort : Bool := words.length = 3 || words.length = 4
  let isBracketed : Bool :=
    isShort && !isJoined && words.head? = some "(" && words.getLast? = some ")"
  let words := if isBracketed then (words.drop 1).dropLast else words
  let operator :=
    if isJoined then none
    else if isShort && words.head? = some "!" then some .not
    else operatorAt? words
  let (value, rest) ← either facts (4 * words.length + 8) operator words
  match rest with
  | last :: _ :: _ => .error (last ++ ": unexpected operator")
  | _ => return value

end Condition

end Overseer
