import Overseer.Pattern.RegexReader
import Overseer.Text.Octets

/-!
# Scripts of the line editor

A script is a row of commands. Each is carried out for the lines that its selector picks:
one line, a range of lines, or all.
-/

namespace Overseer.Editor

/-- An expression; none stands for the one that was used last. -/
abbrev SearchPattern := Option Regex

/-- What picks a line. -/
inductive Address
  | line (number : Nat)
  | lastLine
  | matching (pattern : SearchPattern)
  /-- Each so many lines from the first one on. -/
  | every (first step : Nat)

/-- What ends a range of lines. -/
inductive RangeEnd
  | address (address : Address)
  /-- So many lines later. -/
  | later (count : Nat)
  /-- The next later line whose number is a multiple of one. -/
  | multiple (factor : Nat)

/-- Which lines a command is meant for. -/
structure Selector where
  first : Option Address := none
  last : Option RangeEnd := none
  /-- Whether the range may begin before the first line. -/
  beginsEarly : Bool := false
  negated : Bool := false

/-- How the letters of what follows are written. -/
inductive Casing
  | upper
  | lower
  | nextUpper
  | nextLower
  | plain

/-- A part of what replaces a match. -/
inductive Replacement
  | text (octets : Octets)
  /-- What a group has matched; zero stands for the whole match. -/
  | group (number : Nat)
  | casing (casing : Casing)

structure Substitution where
  pattern : SearchPattern
  replacement : List Replacement
  isGlobal : Bool := false
  /-- The number of the first match that is replaced. -/
  place : Nat := 1
  prints : Bool := false
  file : Option Octets := none

inductive Action
  /-- The commands up to the closing brace. -/
  | open
  | close
  | label (name : Octets)
  /-- Goes on at a label, or at the end of the script. `ifReplaced` asks for a substitution
  that was made since the last line was read, or for none. -/
  | branch (ifReplaced : Option Bool) (label : Option Octets)
  | append (text : Octets)
  | insert (text : Octets)
  | change (text : Octets)
  | delete
  | deleteFirst
  | print
  | printFirst
  | printNumber
  | printName
  | printPlainly (width : Option Nat)
  | hold
  | holdMore
  | get
  | getMore
  | exchange
  | clear
  | next
  | nextMore
  | quit (status : Nat) (prints : Bool)
  | readFile (path : Octets)
  | readLine (path : Octets)
  | writeFile (path : Octets)
  | writeFirst (path : Octets)
  | substitute (substitution : Substitution)
  | transliterate (source target : List Char)

structure Command where
  selector : Selector
  action : Action

/-! ## Replacing -/

def Casing.apply (casing : Casing) (c : Char) : Char :=
  match casing with
  | .upper | .nextUpper => c.toUpper
  | .lower | .nextLower => c.toLower
  | .plain => c

/-- What parts come to, given what the groups have matched. `mode` holds for all letters,
`once` for the next one. -/
def expand (group : Nat → List Char) : (mode : Casing) → (once : Option Casing) →
    List Replacement → List Char
  | _, _, [] => []
  | mode, once, .casing casing :: rest =>
    match casing with
    | .nextUpper | .nextLower => expand group mode (some casing) rest
    | _ => expand group casing once rest
  | mode, once, .text octets :: rest => cased mode once octets.toList rest
  | mode, once, .group number :: rest => cased mode once (group number) rest
where
  cased (mode : Casing) (once : Option Casing) (text : List Char) (rest : List Replacement) :
      List Char :=
    match text with
    | [] => expand group mode once rest
    | c :: others =>
      (once.getD mode).apply c :: others.map mode.apply ++ expand group mode none rest

/-- Replaces matches in a text from a position on; `previous` is where the last match ended
and `place` the number of the next one. None if nothing was replaced. `fuel` bounds the
matches. -/
def replaceFrom (regex : Regex) (expand : Regex.Match → List Char) (substitution : Substitution)
    (text : Array Char) : (fuel : Nat) → (place position : Nat) → (previous : Option Nat) →
    Option (List Char)
  | 0, _, _, _ => none
  | fuel + 1, place, position, previous =>
    match regex.find? text position with
    | none => none
    | some found =>
      let before := (text.extract position found.first).toList
      let isEmpty := found.first = found.last
      if isEmpty && previous = some found.first then
        if found.first < text.size then
          let skipped := before ++ (text.extract found.first (found.first + 1)).toList
          (replaceFrom regex expand substitution text fuel place (found.first + 1) none).map
            (skipped ++ ·)
        else none
      else
        let next := if isEmpty then found.last + 1 else found.last
        let after := (text.extract found.last next).toList
        let rest (continues : Bool) : Option (List Char) :=
          if continues && next ≤ text.size then
            replaceFrom regex expand substitution text fuel (place + 1) next (some found.last)
          else none
        if place < substitution.place then
          (rest true).map
            ((before ++ (text.extract found.first found.last).toList ++ after) ++ ·)
        else
          let others :=
            (rest substitution.isGlobal).getD (text.extract next text.size).toList
          some (before ++ expand found ++ after ++ others)

/-- Makes a substitution in a text; none if nothing is replaced. -/
def Substitution.apply? (substitution : Substitution) (regex : Regex) (text : Octets) :
    Option Octets :=
  let chars := text.toList.toArray
  let expanded (found : Regex.Match) : List Char :=
    expand (found.group chars) .plain none substitution.replacement
  (replaceFrom regex expanded substitution chars (2 * chars.size + 2) 1 0 none).map String.ofList

/-! ## Plain printing -/

/-- How a character is shown so that it can be told from all others. -/
def plainChar (c : Char) : List Char :=
  let named : List (Char × Char) :=
    [('\\', '\\'), ('\x07', 'a'), ('\x08', 'b'), ('\x0c', 'f'), ('\n', 'n'), ('\r', 'r'),
     ('\t', 't'), ('\x0b', 'v')]
  match named.lookup c with
  | some letter => ['\\', letter]
  | none =>
    if ' ' ≤ c && c ≤ '~' then [c] else '\\' :: (Nat.toDigits 8 c.toNat).leftpad 3 '0'

/-- A text with each character shown plainly, in lines of a width. -/
def plainText (width : Nat) : (used : Nat) → List Char → List Char
  | _, [] => ['$', '\n']
  | used, c :: rest =>
    let shown := plainChar c
    if 1 < width && width - 1 < used + shown.length then
      '\\' :: '\n' :: shown ++ plainText width shown.length rest
    else shown ++ plainText width (used + shown.length) rest

end Overseer.Editor
