import Overseer.Text.Octets

/-!
# Digests

What the digests of bytes have in common: the bytes are filled up to whole blocks, which are
mixed into a state one after another. Words are naturals below a power of two.
-/

namespace Overseer.Digest

/-- The word size in bits; words are below its power of two. -/
abbrev WordSize := Nat

def WordSize.bound (size : WordSize) : Nat := Nat.pow 2 size

/-- A sum of words. -/
def add (size : WordSize) (first second : Nat) : Nat := (first + second) % size.bound

def complement (size : WordSize) (word : Nat) : Nat := size.bound - 1 - word

def rotateLeft (size : WordSize) (word count : Nat) : Nat :=
  (word <<< count ||| word >>> (size - count)) % size.bound

def rotateRight (size : WordSize) (word count : Nat) : Nat := rotateLeft size word (size - count)

/-- The bytes of a number, lowest first. -/
def bytesUp : (count : Nat) → Nat → List Nat
  | 0, _ => []
  | count + 1, number => number % 256 :: bytesUp count (number / 256)

/-- The number with some bytes, lowest first. -/
def numberUp (bytes : List Nat) : Nat := bytes.foldr (fun byte number => number * 256 + byte) 0

/-- How a digest takes bytes in. -/
structure Intake where
  /-- The number of bytes of a block, and of those of the length at its end. -/
  blockSize : Nat
  lengthSize : Nat
  wordSize : WordSize
  /-- Whether the lowest byte of a word comes first. -/
  lowFirst : Bool

namespace Intake

/-- Bytes in the order of the digest, given lowest first. -/
def ordered (intake : Intake) (bytes : List Nat) : List Nat :=
  if intake.lowFirst then bytes else bytes.reverse

/-- The bytes filled up to whole blocks: a one bit, zeros, and the number of bits. -/
def fill (intake : Intake) (bytes : List Nat) : List Nat :=
  let used := (bytes.length + 1 + intake.lengthSize) % intake.blockSize
  let zeros := (intake.blockSize - used) % intake.blockSize
  bytes ++ 128 :: List.replicate zeros 0 ++
    intake.ordered (bytesUp intake.lengthSize (bytes.length * 8))

/-- Splits a list into pieces of a size. `fuel` bounds the pieces. -/
def pieces (size : Nat) : (fuel : Nat) → List Nat → List (List Nat)
  | 0, _ => []
  | _, [] => []
  | fuel + 1, items => items.take size :: pieces size fuel (items.drop size)

/-- The words of each block. -/
def blocks (intake : Intake) (bytes : List Nat) : List (Array Nat) :=
  let filled := intake.fill bytes
  (pieces intake.blockSize filled.length filled).map fun block =>
    ((pieces (intake.wordSize / 8) block.length block).map fun word =>
      numberUp (intake.ordered word)).toArray

/-- The bytes of words. -/
def bytesOf (intake : Intake) (words : List Nat) : List Nat :=
  words.flatMap fun word => intake.ordered (bytesUp (intake.wordSize / 8) word)

end Intake

/-- Bytes in base sixteen. -/
def hexadecimal (bytes : List Nat) : Octets :=
  String.ofList (bytes.flatMap fun byte => (Nat.toDigits 16 byte).leftpad 2 '0')

def bytesOfOctets (octets : Octets) : List Nat := octets.toList.map Char.toNat

end Overseer.Digest
