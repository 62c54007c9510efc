import Overseer.Text.Octets

/-!
# Escaped texts

A backslash in a text gives the characters after it a meaning of their own. An
`EscapeStyle` says which characters may follow, and `unescape` replaces them by what they
stand for; a backslash that means nothing stays as it is.
-/

namespace Overseer

structure EscapeStyle where
  /-- The letters that stand for one character. -/
  letters : List (Char × Char)
  /-- Whether one to three octal digits stand for a byte. -/
  octal : Bool := false
  /-- Whether a zero may be followed by three more octal digits. -/
  longOctal : Bool := false
  /-- Whether an `x` and one or two hexadecimal digits stand for a byte. -/
  hexadecimal : Bool := false
  /-- Whether a `c` ends the text. -/
  ends : Bool := false

namespace EscapeStyle

/-- The letters that stand for control characters in most texts. -/
def controlLetters : List (Char × Char) :=
  [('\\', '\\'), ('a', '\x07'), ('b', '\x08'), ('f', '\x0c'), ('n', '\n'), ('r', '\r'),
   ('t', '\t'), ('v', '\x0b')]

end EscapeStyle

/-- The value of a digit in a base of at most sixteen. -/
def digitValue? (base : Nat) (c : Char) : Option Nat :=
  let value :=
    if c.isDigit then c.toNat - '0'.toNat
    else if 'a' ≤ c && c ≤ 'z' then c.toNat - 'a'.toNat + 10
    else if 'A' ≤ c && c ≤ 'Z' then c.toNat - 'A'.toNat + 10
    else 99
  if value < base then some value else none

/-- The number that digits write. -/
def valueOfDigits (base : Nat) (digits : List Char) : Nat :=
  digits.foldl (fun value c => value * base + (digitValue? base c).getD 0) 0

/-- The byte that at most so many digits write, and what follows them. -/
def byteOfDigits (base most : Nat) (text : List Char) : Char × List Char :=
  let digits := (text.take most).takeWhile fun c => (digitValue? base c).isSome
  (Char.ofNat (valueOfDigits base digits % 256), text.drop digits.length)

/-- What the text after a backslash stands for, and the rest; none if it means nothing. -/
def EscapeStyle.read? (style : EscapeStyle) : List Char → Option (Char × List Char)
  | [] => none
  | c :: rest =>
    if c = '0' && style.longOctal then some (byteOfDigits 8 3 rest)
    else if (digitValue? 8 c).isSome && style.octal then some (byteOfDigits 8 3 (c :: rest))
    else if c = 'x' && style.hexadecimal && rest.head?.any fun d => (digitValue? 16 d).isSome then
      some (byteOfDigits 16 2 rest)
    else (style.letters.lookup c).map (·, rest)

/-- A text without its escapes, and whether it ended early. `fuel` bounds its length. -/
def EscapeStyle.unescapeWithin (style : EscapeStyle) : (fuel : Nat) → List Char → List Char × Bool
  | 0, text => (text, false)
  | _, [] => ([], false)
  | fuel + 1, c :: rest =>
    if c ≠ '\\' then
      let (after, ended) := unescapeWithin style fuel rest
      (c :: after, ended)
    else if style.ends && rest.head? = some 'c' then ([], true)
    else
      match style.read? rest with
      | some (meaning, rest) =>
        let (after, ended) := unescapeWithin style fuel rest
        (meaning :: after, ended)
      | none =>
        match rest with
        | [] => (['\\'], false)
        | next :: rest =>
          let (after, ended) := unescapeWithin style fuel rest
          ('\\' :: next :: after, ended)

def EscapeStyle.unescape (style : EscapeStyle) (text : Octets) : Octets × Bool :=
  let (chars, ended) := style.unescapeWithin text.length text.toList
  (String.ofList chars, ended)

end Overseer
