/-!
# The layout of TOML

What stands between the tokens of a TOML text: blanks, line ends and comments. A
line ends with a line feed, before which a carriage return may stand; a carriage
return anywhere else is an error.
-/

namespace Overseer.Toml

def isBlank (c : Char) : Bool := c = ' ' || c = '\t'

/-- Whether a character may stand in a string or a comment: a tab, or any
character that is no control character. -/
def isText (c : Char) : Bool := c = '\t' || (0x20 ≤ c.toNat && c.toNat ≠ 0x7F)

def skipBlanks (input : List Char) : List Char := input.dropWhile isBlank

/-- Skips blanks, line ends and comments. -/
def skipLayout : (inComment : Bool) → List Char → Option (List Char)
  | _, [] => some []
  | _, '\n' :: rest => skipLayout false rest
  | _, '\r' :: '\n' :: rest => skipLayout false rest
  | true, c :: rest => if isText c then skipLayout true rest else none
  | false, c :: rest =>
    if isBlank c then skipLayout false rest
    else if c = '#' then skipLayout true rest
    else some (c :: rest)

/-- Skips what may follow on a line: blanks, a comment, and the line end. -/
def skipLineEnd : (inComment : Bool) → List Char → Option (List Char)
  | _, [] => some []
  | _, '\n' :: rest => some rest
  | _, '\r' :: '\n' :: rest => some rest
  | true, c :: rest => if isText c then skipLineEnd true rest else none
  | false, c :: rest =>
    if isBlank c then skipLineEnd false rest
    else if c = '#' then skipLineEnd true rest
    else none

end Overseer.Toml
