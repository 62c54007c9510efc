/-!
# Read documents

`Value` is the type of the documents that are read, from JSON or from TOML.
The two formats admit different spellings of the same thing; a `Dialect` says
which. The functions below turn a value into a field of a given type, or into
nothing where the value does not fit.
-/

namespace Overseer

/-- A document that was read. A `moment` is a date, a time or both; `outOfRange`
is a well-formed number that no field can hold. -/
inductive Value
  | null
  | boolean (value : Bool)
  | integer (value : Int)
  | real (value : Float)
  | text (value : String)
  | moment (value : String)
  | outOfRange
  | list (items : List Value)
  | record (fields : List (String × Value))
  deriving Inhabited

/-- What a document format admits beyond the common forms. -/
structure Dialect where
  /-- Whether a record given as a list may have more items than fields. -/
  extraItems : Bool
  /-- Whether the value may stand beside the name of a variant without content. -/
  emptyContent : Value → Bool

namespace Value

/-! ## Numbers and texts -/

def inRange (low high : Int) (value : Int) : Bool := low ≤ value && value ≤ high

def word32? : Value → Option UInt32
  | .integer value =>
    if inRange 0 4294967295 value then some (UInt32.ofNat value.toNat) else none
  | _ => none

def word64? : Value → Option UInt64
  | .integer value =>
    if inRange 0 18446744073709551615 value then some (UInt64.ofNat value.toNat) else none
  | _ => none

def signed32? : Value → Option Int32
  | .integer value =>
    if inRange (-2147483648) 2147483647 value then some (Int32.ofInt value) else none
  | _ => none

/-- An integer of at most 64 bits, signed or not, may stand for a real. -/
def real? : Value → Option Float
  | .real value => some value
  | .integer value =>
    if inRange (-9223372036854775808) 18446744073709551615 value then some (Float.ofInt value)
    else none
  | _ => none

def text? : Value → Option String
  | .text value => some value
  | _ => none

def list? : Value → Option (List Value)
  | .list items => some items
  | _ => none

/-- A list whose items all fit. -/
def listOf? (item? : Value → Option α) (value : Value) : Option (List α) := do
  (← value.list?).mapM item?

/-! ## Ignored values -/

mutual

/-- Whether a value that no field takes may be passed over: it must not hold a
number out of range. -/
def ignorable : Value → Bool
  | .outOfRange => false
  | .list items => ignorableItems items
  | .record fields => ignorableFields fields
  | _ => true

def ignorableItems : List Value → Bool
  | [] => true
  | item :: rest => item.ignorable && ignorableItems rest

def ignorableFields : List (String × Value) → Bool
  | [] => true
  | (_, value) :: rest => value.ignorable && ignorableFields rest

end

/-! ## Records -/

/-- Reads a value as a record with the named fields, in this order: a record
whose other fields can be ignored, or a list of the fields without their names,
of which the last may be missing. A moment counts as a record without any of
them. -/
def fields? (dialect : Dialect) (names : List String) :
    Value → Option (List (String × Value))
  | .record fields =>
    let (known, foreign) := fields.partition fun (name, _) => names.contains name
    if ignorableFields foreign then some known else none
  | .list items =>
    if items.length ≤ names.length || dialect.extraItems then some (names.zip items) else none
  | .moment _ => some []
  | _ => none

/-- A field that must be there. -/
def required (fields : List (String × Value)) (name : String) (read? : Value → Option α) :
    Option α := do
  read? (← fields.lookup name)

/-- A field with a default. -/
def defaulted (fields : List (String × Value)) (name : String) (read? : Value → Option α)
    (default : α) : Option α :=
  match fields.lookup name with
  | some value => read? value
  | none => some default

/-! ## Variants -/

/-- The name of a variant: a text alone, or a record of one field whose name is
the variant. The content is what stands in that field. -/
def variant? : Value → Option (String × Option Value)
  | .text name => some (name, none)
  | .record [(name, content)] => some (name, some content)
  | _ => none

/-- The name of a variant without content. -/
def unitVariant? (dialect : Dialect) (value : Value) : Option String :=
  match value.variant? with
  | some (name, none) => some name
  | some (name, some content) => if dialect.emptyContent content then some name else none
  | none => none

end Value

namespace Dialect

/-- JSON takes no extra items, and writes empty content as `null`. -/
def json : Dialect where
  extraItems := false
  emptyContent
    | .null => true
    | _ => false

/-- TOML passes over extra items, and writes empty content as an empty table or
array. -/
def toml : Dialect where
  extraItems := true
  emptyContent
    | .list [] => true
    | .record [] => true
    | _ => false

end Dialect

end Overseer
