import Overseer.Text.Escaped

/-!
# Modes

What may be done with a file, as nine bits and a few more: reading, writing and carrying
out, for the owner, the group and others. A `ModeChange` is written with letters or as an
octal number.
-/

namespace Overseer

/-- What one part of a change does to the bits of those it is about. -/
inductive ModeAction
  | add
  | remove
  | set
  deriving DecidableEq

inductive ModeSource
  /-- Bits for each of the owner, the group and others; carrying out may depend on what is
  there, and the last bits are the ones beyond the nine. -/
  | bits (bits : Nat) (carriesIfAny : Bool) (special : Nat)
  /-- The bits of the owner, the group or others, by their place. -/
  | copied (place : Nat)

structure ModeClause where
  /-- The bits of those that the clause is about. -/
  who : Nat
  /-- Whether nobody was named, so that the mask counts. -/
  isMasked : Bool
  action : ModeAction
  source : ModeSource

inductive ModeChange
  | absolute (mode : Nat)
  | relative (clauses : List ModeClause)

namespace ModeChange

def whoBits : Char → Nat
  | 'u' => 0o4700
  | 'g' => 0o2070
  | 'o' => 0o1007
  | _ => 0o7777

/-- The bits of letters, up to a character of another kind. -/
def readBits : List Char → ModeSource × List Char
  | text =>
    let letters := text.takeWhile ['r', 'w', 'x', 'X', 's', 't'].contains
    let bit (letter : Char) (value : Nat) : Nat := if letters.contains letter then value else 0
    (.bits (bit 'r' 4 + bit 'w' 2 + bit 'x' 1) (letters.contains 'X') (bit 's' 0o6000 + bit 't' 0o1000),
      text.drop letters.length)

def readSource : List Char → ModeSource × List Char
  | 'u' :: rest => (.copied 6, rest)
  | 'g' :: rest => (.copied 3, rest)
  | 'o' :: rest => (.copied 0, rest)
  | text => readBits text

def actionOf? : Char → Option ModeAction
  | '+' => some .add
  | '-' => some .remove
  | '=' => some .set
  | _ => none

/-- The actions on those that a part of a text is about. `fuel` bounds the text. -/
def readActions (who : Nat) (isMasked : Bool) : (fuel : Nat) → List Char → Option (List ModeClause)
  | 0, _ => none
  | _, [] => some []
  | fuel + 1, c :: rest => do
    let action ← actionOf? c
    let (source, rest) := readSource rest
    return ⟨who, isMasked, action, source⟩ :: (← readActions who isMasked fuel rest)

def readPart (part : List Char) : Option (List ModeClause) :=
  let (names, actions) := part.span ['u', 'g', 'o', 'a'].contains
  if actions.isEmpty then none
  else
    let who := names.foldl (fun bits name => bits ||| whoBits name) 0
    readActions (if names.isEmpty then 0o7777 else who) names.isEmpty (actions.length + 1) actions

/-- The change that a text writes. -/
def ofText? (text : Octets) : Option ModeChange :=
  let chars := text.toList
  if !chars.isEmpty && chars.all fun c => (digitValue? 8 c).isSome then
    let mode := valueOfDigits 8 chars
    if mode ≤ 0o7777 then some (.absolute mode) else none
  else do
    let parts ← (text.splitOn ",").mapM fun part => readPart part.toList
    return .relative parts.flatten

/-- The same three bits for the owner, the group and others. -/
def spread (bits : Nat) : Nat := bits * 0o111

def applyClause (mask : Nat) (isFolder : Bool) (mode : Nat) (clause : ModeClause) : Nat :=
  let meant :=
    match clause.source with
    | .copied place => spread (mode >>> place &&& 7)
    | .bits bits carriesIfAny special =>
      let carries := carriesIfAny && (isFolder || mode &&& 0o111 ≠ 0)
      spread (if carries then bits ||| 1 else bits) ||| special
  let who := if clause.isMasked then clause.who &&& (0o7777 ^^^ mask) else clause.who
  let bits := meant &&& who
  match clause.action with
  | .add => mode ||| bits
  | .remove => mode &&& (0o7777 ^^^ bits)
  | .set => mode &&& (0o7777 ^^^ clause.who) ||| bits

/-- The mode that a change makes of another one. -/
def apply (mask : Nat) (isFolder : Bool) (mode : Nat) : ModeChange → Nat
  | absolute mode => mode
  | relative clauses => clauses.foldl (applyClause mask isFolder) mode

/-- Nine bits as letters. -/
def letters (mode : Nat) : Octets :=
  String.ofList (((List.range 9).reverse.zip ['r', 'w', 'x', 'r', 'w', 'x', 'r', 'w', 'x']).map
    fun (place, letter) => if mode >>> place % 2 = 1 then letter else '-')

end ModeChange

end Overseer
