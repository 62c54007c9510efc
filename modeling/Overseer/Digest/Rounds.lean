import Overseer.Digest.Basic

/-!
# The digests in use

The 128-bit digest with its tables of sines, the 160-bit one, and the family with words of 32
or 64 bits whose tables are parts of the roots of primes.
-/

namespace Overseer.Digest

/-! ## Tables -/

/-- The first primes, up to a number of them. `fuel` bounds the candidates. -/
def primes (count : Nat) : List Nat :=
  go 500 2 count
where
  go : (fuel : Nat) → Nat → Nat → List Nat
    | 0, _, _ => []
    | _, _, 0 => []
    | fuel + 1, candidate, count + 1 =>
      if ((List.range candidate).drop 2).all fun divisor => candidate % divisor ≠ 0 then
        candidate :: go fuel (candidate + 1) count
      else go fuel (candidate + 1) (count + 1)

/-- The greatest number below a power of two that a test admits; the test admits all numbers
up to some one. -/
def greatest (admits : Nat → Bool) : (bits : Nat) → Nat → Nat
  | 0, found => found
  | bits + 1, found =>
    let next := found + Nat.pow 2 bits
    greatest admits bits (if admits next then next else found)

/-- The first bits of the fraction of a root of a number. -/
def rootFraction (degree bits number : Nat) : Nat :=
  let scaled := number * Nat.pow 2 (degree * bits)
  greatest (fun root => Nat.pow root degree ≤ scaled) (bits + 10) 0 % Nat.pow 2 bits

/-- The first bits of the fractions of sines. -/
def sineTable : Array Nat :=
  ((List.range 64).map fun i =>
    ((Float.sin (Float.ofNat (i + 1))).abs * 4294967296).floor.toUInt64.toNat).toArray

/-! ## The digest of 128 bits -/

def intake128 : Intake := ⟨64, 8, 32, true⟩

/-- The rotations of the rounds, four for each group of sixteen. -/
def rotations128 : List (List Nat) :=
  [[7, 12, 17, 22], [5, 9, 14, 20], [4, 11, 16, 23], [6, 10, 15, 21]]

def round128 (block : Array Nat) (state : Nat × Nat × Nat × Nat) (i : Nat) :
    Nat × Nat × Nat × Nat :=
  let (a, b, c, d) := state
  let (mixed, place) :=
    match i / 16 with
    | 0 => ((b &&& c) ||| (complement 32 b &&& d), i)
    | 1 => ((d &&& b) ||| (complement 32 d &&& c), (5 * i + 1) % 16)
    | 2 => (b ^^^ c ^^^ d, (3 * i + 5) % 16)
    | _ => (c ^^^ (b ||| complement 32 d), (7 * i) % 16)
  let sum := (a + mixed + sineTable.getD i 0 + block.getD place 0) % Nat.pow 2 32
  let count := ((rotations128.getD (i / 16) []).getD (i % 4) 0)
  (d, add 32 b (rotateLeft 32 sum count), b, c)

def digest128 (octets : Octets) : List Nat :=
  let start : Nat × Nat × Nat × Nat := (0x67452301, 0xefcdab89, 0x98badcfe, 0x10325476)
  let (a, b, c, d) :=
    (intake128.blocks (bytesOfOctets octets)).foldl (fun state block =>
      let (a, b, c, d) := (List.range 64).foldl (round128 block) state
      (add 32 state.1 a, add 32 state.2.1 b, add 32 state.2.2.1 c, add 32 state.2.2.2 d)) start
  intake128.bytesOf [a, b, c, d]

/-! ## The digest of 160 bits -/

def intake160 : Intake := ⟨64, 8, 32, false⟩

/-- The words of all rounds: those of the block, and mixtures of earlier ones. -/
def schedule160 (block : Array Nat) : Array Nat :=
  ((List.range 64).map (· + 16)).foldl (fun (words : Array Nat) i =>
    let earlier (count : Nat) : Nat := words.getD (i - count) 0
    words.push (rotateLeft 32 (earlier 3 ^^^ earlier 8 ^^^ earlier 14 ^^^ earlier 16) 1)) block

def round160 (words : Array Nat) (state : List Nat) (i : Nat) : List Nat :=
  match state with
  | [a, b, c, d, e] =>
    let (mixed, constant) :=
      match i / 20 with
      | 0 => ((b &&& c) ||| (complement 32 b &&& d), 0x5a827999)
      | 1 => (b ^^^ c ^^^ d, 0x6ed9eba1)
      | 2 => ((b &&& c) ||| (b &&& d) ||| (c &&& d), 0x8f1bbcdc)
      | _ => (b ^^^ c ^^^ d, 0xca62c1d6)
    let sum := rotateLeft 32 a 5 + mixed + e + constant + words.getD i 0
    [sum % Nat.pow 2 32, a, rotateLeft 32 b 30, c, d]
  | state => state

def digest160 (octets : Octets) : List Nat :=
  let start := [0x67452301, 0xefcdab89, 0x98badcfe, 0x10325476, 0xc3d2e1f0]
  intake160.bytesOf ((intake160.blocks (bytesOfOctets octets)).foldl (fun state block =>
    List.zipWith (add 32) state
      ((List.range 80).foldl (round160 (schedule160 block)) state)) start)

/-! ## The family -/

/-- A digest of the family. The sums rotate a word by three counts; in the small ones the last
is a shift. -/
structure Family where
  intake : Intake
  rounds : Nat
  large : List (List Nat)
  small : List (List Nat)

namespace Family

def of32 : Family :=
  ⟨⟨64, 8, 32, false⟩, 64, [[2, 13, 22], [6, 11, 25]], [[7, 18, 3], [17, 19, 10]]⟩

def of64 : Family :=
  ⟨⟨128, 16, 64, false⟩, 80, [[28, 34, 39], [14, 18, 41]], [[1, 8, 7], [19, 61, 6]]⟩

def size (family : Family) : WordSize := family.intake.wordSize

/-- The constants of the rounds. -/
def constants (family : Family) : Array Nat :=
  ((primes family.rounds).map (rootFraction 3 family.size)).toArray

def largeSum (family : Family) (which word : Nat) : Nat :=
  (family.large.getD which []).foldl (fun sum count =>
    sum ^^^ rotateRight family.size word count) 0

def smallSum (family : Family) (which word : Nat) : Nat :=
  match family.small.getD which [] with
  | [first, second, shift] =>
    rotateRight family.size word first ^^^ rotateRight family.size word second ^^^ (word >>> shift)
  | _ => word

def schedule (family : Family) (block : Array Nat) : Array Nat :=
  ((List.range (family.rounds - 16)).map (· + 16)).foldl (fun (words : Array Nat) i =>
    let earlier (count : Nat) : Nat := words.getD (i - count) 0
    words.push ((family.smallSum 1 (earlier 2) + earlier 7 + family.smallSum 0 (earlier 15) +
      earlier 16) % family.size.bound)) block

def round (family : Family) (constants words : Array Nat) (state : List Nat) (i : Nat) :
    List Nat :=
  match state with
  | [a, b, c, d, e, f, g, h] =>
    let choice := (e &&& f) ^^^ (complement family.size e &&& g)
    let majority := (a &&& b) ^^^ (a &&& c) ^^^ (b &&& c)
    let first := h + family.largeSum 1 e + choice + constants.getD i 0 + words.getD i 0
    let second := family.largeSum 0 a + majority
    [(first + second) % family.size.bound, a, b, c, (d + first) % family.size.bound, e, f, g]
  | state => state

/-- The digest from a first state on. -/
def digest (family : Family) (start : List Nat) (octets : Octets) : List Nat :=
  let constants := family.constants
  family.intake.bytesOf ((family.intake.blocks (bytesOfOctets octets)).foldl (fun state block =>
    let words := family.schedule block
    List.zipWith (add family.size) state
      ((List.range family.rounds).foldl (family.round constants words) state)) start)

end Family

def digest256 (octets : Octets) : List Nat :=
  Family.of32.digest ((primes 8).map (rootFraction 2 32)) octets

def digest224 (octets : Octets) : List Nat :=
  let start := ((primes 16).drop 8).map fun prime => rootFraction 2 64 prime % Nat.pow 2 32
  (Family.of32.digest start octets).take 28

def digest512 (octets : Octets) : List Nat :=
  Family.of64.digest ((primes 8).map (rootFraction 2 64)) octets

def digest384 (octets : Octets) : List Nat :=
  (Family.of64.digest (((primes 16).drop 8).map (rootFraction 2 64)) octets).take 48

/-! ## Check sums -/

/-- Shifts a bit into a remainder modulo the polynomial of 32 bits. -/
def shiftRemainder (remainder : Nat) (bit : Bool) : Nat :=
  let next := (remainder * 2 + if bit then 1 else 0)
  if next < Nat.pow 2 32 then next else (next - Nat.pow 2 32) ^^^ 0x04c11db7

/-- The remainder of the bytes and their number, as a check sum. -/
def cyclicSum (octets : Octets) : Nat :=
  let bytes := bytesOfOctets octets
  let lengthBytes := (bytesUp 8 bytes.length).reverse.dropWhile (· = 0) |>.reverse
  let bits (byte : Nat) : List Bool := ((List.range 8).reverse.map fun i => byte.testBit i)
  let feed (remainder byte : Nat) : Nat := (bits byte).foldl shiftRemainder remainder
  let remainder := (bytes ++ lengthBytes ++ [0, 0, 0, 0]).foldl feed 0
  complement 32 remainder

/-- The sum of the bytes that is rotated after each. -/
def rotatedSum (octets : Octets) : Nat :=
  (bytesOfOctets octets).foldl (fun sum byte => (rotateRight 16 sum 1 + byte) % 65536) 0

/-- The sum of the bytes, folded to 16 bits. -/
def foldedSum (octets : Octets) : Nat :=
  let sum := (bytesOfOctets octets).foldl (· + ·) 0 % Nat.pow 2 32
  let once := sum % 65536 + sum / 65536
  once % 65536 + once / 65536

end Overseer.Digest
