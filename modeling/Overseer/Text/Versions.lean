/-!
# The order of versions

Names with numbers in them are ordered so that numbers count as such. A tilde comes before
everything, even the end; letters come before other characters. The ends of names that look
like kinds of files count only if nothing else differs.
-/

namespace Overseer.Versions

/-- The rank of what a text begins with: the end, a digit or some other character. -/
def rank : List Char → Int
  | [] => -1
  | c :: _ =>
    if c.isDigit then 0
    else if c.isAlpha then c.toNat
    else if c = '~' then -2
    else c.toNat + 256

/-- Compares two runs of digits without leading zeros: the longer one is greater. -/
def compareDigits (first second : List Char) : Ordering :=
  (compare first.length second.length).then
    (compare (String.ofList first) (String.ofList second))

def startsWithDigit (text : List Char) : Bool := text.head?.any Char.isDigit

/-- Compares two texts part by part. `fuel` bounds the characters. -/
def compareParts : (fuel : Nat) → List Char → List Char → Ordering
  | 0, _, _ => .eq
  | _, [], [] => .eq
  | fuel + 1, first, second =>
    let isOther (text : List Char) : Bool := !text.isEmpty && !startsWithDigit text
    if isOther first || isOther second then
      (compare (rank first) (rank second)).then (compareParts fuel first.tail second.tail)
    else
      let (firstDigits, first) := (first.dropWhile (· = '0')).span Char.isDigit
      let (secondDigits, second) := (second.dropWhile (· = '0')).span Char.isDigit
      (compareDigits firstDigits secondDigits).then (compareParts fuel first second)

/-- Drops the kinds of a file at the end of its name, given backwards; a kind is a dot, a
letter or tilde, and letters, digits and tildes. `fuel` bounds the kinds. -/
def dropKinds : (fuel : Nat) → List Char → List Char
  | 0, reversed => reversed
  | fuel + 1, reversed =>
    let (kind, rest) := reversed.span fun c => c.isAlphanum || c = '~'
    match kind.getLast?, rest with
    | some opening, '.' :: rest =>
      if (opening.isAlpha || opening = '~') && !rest.isEmpty then dropKinds fuel rest else reversed
    | _, _ => reversed

def withoutKinds (name : List Char) : List Char := (dropKinds name.length name.reverse).reverse

/-- Names that come before all others. -/
def early : List String := ["", ".", ".."]

def place (name : String) : Nat :=
  (early.findIdx? (· = name)).getD (if name.startsWith "." then 3 else 4)

/-- Compares two names. -/
def compareNames (first second : String) : Ordering :=
  let parts (first second : List Char) : Ordering :=
    compareParts (first.length + second.length + 1) first second
  (compare (place first) (place second)).then
    ((parts (withoutKinds first.toList) (withoutKinds second.toList)).then
      (parts first.toList second.toList))

end Overseer.Versions
