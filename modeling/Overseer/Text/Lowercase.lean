import Overseer.Text.Cased
import Overseer.Text.LowercaseTable

/-!
# Lowering a text

`lower` maps a text to lower case with the full mappings of the character
standard. Two letters need more than a table of single characters: a capital I
with a dot becomes two characters, and a capital sigma that ends a word becomes
the final form of the small letter.
-/

namespace Overseer.Text

/-- The lower case of a single letter; any other character stays. -/
def lowerChar (c : Char) : Char :=
  match lowercaseRows.find? (·.covers c.toNat) with
  | some row => Char.ofNat (c.toNat + row.offset).toNat
  | none => c

/-- Whether a cased letter comes first, once case-ignorable characters are
skipped. -/
def startsCased (chars : List Char) : Bool :=
  match chars.dropWhile isCaseIgnorable with
  | [] => false
  | c :: _ => isCased c

/-- The lower case of the characters after `before`, which holds the original
characters to the left, nearest first. -/
def lowerFrom (before : List Char) : List Char → List Char
  | [] => []
  | c :: rest =>
    let lowered :=
      if c = 'Σ' then
        [if startsCased before && !startsCased rest then 'ς' else 'σ']
      else if c = 'İ' then ['i', Char.ofNat 0x307]
      else [lowerChar c]
    lowered ++ lowerFrom (c :: before) rest

/-- The text in lower case. -/
def lower (text : String) : String := String.ofList (lowerFrom [] text.toList)

end Overseer.Text
