import Overseer.Text.Octets

/-!
# Packed texts

Bytes written with an alphabet of a power of two letters: the bits of the bytes in groups,
each of them a letter. Pads fill the text up to whole groups of bytes.
-/

namespace Overseer

structure Alphabet where
  letters : List Char
  /-- The number of bits of a letter. -/
  bits : Nat
  /-- The number of letters of a whole group of bytes. -/
  group : Nat

namespace Alphabet

def range (first : Char) (count : Nat) : List Char :=
  (List.range count).map fun i => Char.ofNat (first.toNat + i)

def of64 : Alphabet := ⟨range 'A' 26 ++ range 'a' 26 ++ range '0' 10 ++ ['+', '/'], 6, 4⟩

def of32 : Alphabet := ⟨range 'A' 26 ++ range '2' 6, 5, 8⟩

def pad : Char := '='

/-- The bits of a number, highest first. -/
def bitsOf (count number : Nat) : List Bool :=
  ((List.range count).reverse.map fun i => number.testBit i)

def ofBits (bits : List Bool) : Nat :=
  bits.foldl (fun number bit => number * 2 + if bit then 1 else 0) 0

/-- Splits bits into groups of a size, the last of which may be filled up with zeros. `fuel`
bounds the groups. -/
def groups (size : Nat) (fills : Bool) : (fuel : Nat) → List Bool → List Nat
  | 0, _ => []
  | fuel + 1, bits =>
    let group := bits.take size
    if group.length = size then ofBits group :: groups size fills fuel (bits.drop size)
    else if group.isEmpty || !fills then []
    else [ofBits (group ++ List.replicate (size - group.length) false)]

def encode (alphabet : Alphabet) (octets : Octets) : Octets :=
  let bits := octets.toList.flatMap fun c => bitsOf 8 c.toNat
  let letters := (groups alphabet.bits true (bits.length + 1) bits).map fun place =>
    alphabet.letters.getD place pad
  let pads := (alphabet.group - letters.length % alphabet.group) % alphabet.group
  String.ofList (letters ++ List.replicate pads pad)

/-- The bytes of the letters of one group. -/
def groupBytes (alphabet : Alphabet) (letters : List Char) : List Char :=
  let bits := letters.flatMap fun c =>
    bitsOf alphabet.bits ((alphabet.letters.findIdx? (· = c)).getD 0)
  (groups 8 false (bits.length + 1) bits).map Char.ofNat

/-- The bytes that a text writes, up to the first group that is not written as it should be,
and whether there is none such. `fuel` bounds the groups. -/
def decodeWithin (alphabet : Alphabet) : (fuel : Nat) → List Char → List Char × Bool
  | 0, _ => ([], false)
  | _, [] => ([], true)
  | fuel + 1, text =>
    let group := text.take alphabet.group
    let (letters, pads) := group.span alphabet.letters.contains
    let bytes := alphabet.groupBytes letters
    let isWhole := group.length = alphabet.group && letters.length * alphabet.bits % 8 < alphabet.bits
    if isWhole && pads.all (· = pad) then
      let (rest, isRight) := decodeWithin alphabet fuel (text.drop alphabet.group)
      (bytes ++ rest, isRight)
    else (bytes, false)

def decode (alphabet : Alphabet) (text : List Char) : Octets × Bool :=
  let (bytes, isRight) := alphabet.decodeWithin (text.length + 1) text
  (String.ofList bytes, isRight)

end Alphabet

end Overseer
