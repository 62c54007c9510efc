import Overseer.Text.Unprintable

/-!
# Quoted text

`quoted` writes a text between double quotes so that it shows on one line:
quotes, backslashes and the usual blanks get short escapes, any other character
that does not print is given by its code point. A list of texts is written in
square brackets.
-/

namespace Overseer.Text

/-- The code point of `c` in lower-case hexadecimal, as an escape. -/
def codePointEscape (c : Char) : List Char :=
  ['\\', 'u', '\x7b'] ++ Nat.toDigits 16 c.toNat ++ ['\x7d']

def quotedChar (c : Char) : List Char :=
  match c with
  | '"' => ['\\', '"']
  | '\\' => ['\\', '\\']
  | '\n' => ['\\', 'n']
  | '\r' => ['\\', 'r']
  | '\t' => ['\\', 't']
  | '\x00' => ['\\', '0']
  | _ => if isUnprintable c then codePointEscape c else [c]

def quoted (text : String) : String :=
  String.ofList ('"' :: text.toList.flatMap quotedChar ++ ['"'])

/-- The quoted texts, separated by commas, in square brackets. -/
def quotedList (texts : List String) : String :=
  "[" ++ ", ".intercalate (texts.map quoted) ++ "]"

end Overseer.Text
