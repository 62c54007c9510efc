import Overseer.Number.Leading
import Overseer.Text.Directive
import Overseer.Tools.Records.Program

/-!
# Values of record programs

A value is a number or a text; a text that was read is also a number if it looks like one,
and what was never set is both empty and zero. Tables hold values by their keys.
-/

namespace Overseer.Records

inductive Value
  | unset
  | number (value : Float)
  | text (octets : Octets)
  /-- A text that was read. -/
  | read (octets : Octets)

/-! ## Numbers -/

/-- The whole part of a number, or zero if it is none. -/
def wholePart (value : Float) : Int :=
  let magnitude := value.toBits.toNat % powerOfTwo 63
  if 2047 * powerOfTwo 52 < magnitude then 0
  else
    let parts := BinaryValue.ofBits magnitude
    let whole : Nat :=
      match parts.exponent with
      | .ofNat e => parts.mantissa * powerOfTwo e
      | .negSucc e => parts.mantissa / powerOfTwo (e + 1)
    if value < 0 then -whole else whole

/-- The number that a whole number comes to. -/
def ofWhole (value : Int) : Float := (nearestFloat (value < 0) value.natAbs 0).getD 0

/-- The remainder of a division, which has the sign of what is divided. -/
def remainderOf (left right : Float) : Float :=
  let bits (value : Float) : Nat := value.toBits.toNat % powerOfTwo 63
  let infinite := 2047 * powerOfTwo 52
  if infinite ≤ bits left || infinite < bits right || bits right = 0 then 0.0 / 0.0
  else if bits right = infinite then left
  else
    let dividend := BinaryValue.ofBits (bits left)
    let divisor := BinaryValue.ofBits (bits right)
    let least := min dividend.exponent divisor.exponent
    let scaled (value : BinaryValue) : Nat :=
      value.mantissa * powerOfTwo (value.exponent - least).toNat
    let rest := scaled dividend % scaled divisor
    let ratio : BinaryValue.Ratio :=
      match least with
      | .ofNat e => ⟨rest * powerOfTwo e, 1⟩
      | .negSucc e => ⟨rest, powerOfTwo (e + 1)⟩
    let magnitude := if rest = 0 then 0 else (BinaryValue.nearest ratio).toBits
    Float.ofBits (UInt64.ofNat (magnitude + if left < 0 then powerOfTwo 63 else 0))

/-- Lays a number out as the first directive of a format says. -/
def layOut (format : List Char) (value : Float) : Octets :=
  let (before, rest) := format.span (· ≠ '%')
  match rest with
  | [] => String.ofList before
  | _ :: rest =>
    let (directive, rest) := Directive.read rest
    let width :=
      match directive.width with
      | .given count => count
      | .argument => 0
    let precision :=
      match directive.precision with
      | some (.given count) => some count
      | _ => none
    let layout : Layout := ⟨directive.flags, width, precision⟩
    let middle :=
      match directive.conversion with
      | none => ""
      | some 'd' | some 'i' => layout.integer (wholePart value)
      | some conversion => layout.float conversion value
    String.ofList before ++ middle ++ String.ofList rest

/-- A number as a text: a whole one has all its digits, and others are laid out. -/
def numberText (format : Octets) (value : Float) : Octets :=
  if value.isNaN then "-nan"
  else if value == value.floor && -9223372036854775808.0 ≤ value && value ≤ 18446744073709551616.0
  then integerText (min (wholePart value) ((powerOfTwo 64 : Int) - 1))
  else layOut format.toList value

namespace Value

/-- The number that a text which was read looks like. -/
def looksLike? (octets : Octets) : Option Float :=
  match leadingFloat? true octets.toList with
  | some (value, rest) => if rest.all isSpacing then some value else none
  | none => none

def toNumber : Value → Float
  | unset => 0
  | number value => value
  | text octets | read octets =>
    match leadingFloat? true octets.toList with
    | some (value, _) => value
    | none => 0

/-- The number that a value is, if it is one. -/
def number? : Value → Option Float
  | unset => some 0
  | number value => some value
  | text _ => none
  | read octets => looksLike? octets

def toText (format : Octets) : Value → Octets
  | unset => ""
  | number value => numberText format value
  | text octets | read octets => octets

def isTrue : Value → Bool
  | unset => false
  | number value => value != 0
  | text octets => !octets.isEmpty
  | read octets =>
    match looksLike? octets with
    | some value => value != 0
    | none => !octets.isEmpty

def ofBool (holds : Bool) : Value := number (if holds then 1 else 0)

/-- The order of two values: as numbers if both are, and else as texts. -/
def order (format : Octets) (left right : Value) : Ordering :=
  match left.number?, right.number? with
  | some a, some b => if a < b then .lt else if b < a then .gt else .eq
  | _, _ => Ord.compare (left.toText format) (right.toText format)

def compare (format : Octets) (comparison : Comparison) (left right : Value) : Value :=
  let order := order format left right
  ofBool (match comparison with
    | .less => order = .lt
    | .atMost => order ≠ .gt
    | .equal => order = .eq
    | .different => order ≠ .eq
    | .atLeast => order ≠ .lt
    | .more => order = .gt)

end Value

def Arithmetic.apply (operation : Arithmetic) (left right : Float) : Float :=
  match operation with
  | .add => left + right
  | .subtract => left - right
  | .multiply => left * right
  | .divide => left / right
  | .remainder => remainderOf left right
  | .power => left.pow right

/-! ## Tables -/

/-- A table. Its keys are spread over lists, whose number is a power of two, and which show
the key that was used last first. -/
structure Table where
  lists : Array (List (Octets × Value)) := Array.replicate 64 []
  size : Nat := 0
  deriving Inhabited

namespace Table

/-- The number that decides which list a key is in. -/
def spread (key : Octets) : Nat :=
  (key.foldl (fun (sum : UInt32) c => (sum ^^^ c.toNat.toUInt32) * 16777619) 2166136261).toNat

def place (table : Table) (key : Octets) : Nat := spread key % table.lists.size

/-- The number of keys for each list from which on there are more lists. -/
def mostPerList : Nat := 12

/-- Spreads the keys over twice as many lists. -/
def doubled (table : Table) : Table :=
  let count := table.lists.size
  let lists := table.lists ++ table.lists
  { table with
    lists := lists.mapIdx fun place list =>
      list.filter fun entry => spread entry.1 % (2 * count) = place }

def get? (table : Table) (key : Octets) : Option Value :=
  (table.lists.getD (table.place key) []).lookup key

def contains (table : Table) (key : Octets) : Bool := (table.get? key).isSome

def put (table : Table) (key : Octets) (value : Value) : Table :=
  let list := table.lists.getD (table.place key) []
  if list.any (·.1 = key) then
    { table with
      lists := table.lists.setIfInBounds (table.place key)
        ((key, value) :: list.filter (·.1 ≠ key)) }
  else
    let table : Table :=
      { lists := table.lists.setIfInBounds (table.place key) ((key, value) :: list)
        size := table.size + 1 }
    if mostPerList * table.lists.size < table.size then table.doubled else table

/-- The value of a key, which is in the table from now on. -/
def look (table : Table) (key : Octets) : Value × Table :=
  let value := (table.get? key).getD .unset
  (value, table.put key value)

def delete (table : Table) (key : Octets) : Table :=
  if table.contains key then
    { lists := table.lists.modify (table.place key) fun list => list.filter (·.1 ≠ key)
      size := table.size - 1 }
  else table

def keys (table : Table) : List Octets := table.lists.toList.flatMap fun list => list.map (·.1)

/-- The table of values with the numbers from one on as keys. -/
def ofList (values : List Value) : Table :=
  (values.zipIdx.foldl
    (fun (table : Table) entry => table.put (Nat.repr (entry.2 + 1)) entry.1) {})

end Table

end Overseer.Records
