import Overseer.Data.Value

/-!
# Tables of a TOML text

A TOML text builds one nested table piece by piece. Which pieces may still be
added to a table depends on how it came about: by a header, by a longer header
that passes through it, or by a key with points. Values, among them inline tables
and arrays, are closed.
-/

namespace Overseer.Toml

/-- How a table came about. -/
inductive Origin
  | declared
  /-- Passed through by the header of a table below it. -/
  | implied
  | dotted
  deriving DecidableEq

/-- What a key of a table stands for. -/
inductive Node
  | value (value : Value)
  | table (origin : Origin) (fields : List (String × Node))
  /-- Tables with the same header in double brackets, latest first. -/
  | tables (items : List (List (String × Node)))

abbrev Fields := List (String × Node)

/-! ## Finished tables -/

mutual

def Node.toValue : Node → Value
  | .value value => value
  | .table _ fields => .record (fieldValues fields)
  | .tables items => .list (itemValues [] items)

def fieldValues : List (String × Node) → List (String × Value)
  | [] => []
  | (name, node) :: rest => (name, node.toValue) :: fieldValues rest

/-- The tables in the order of the text; `later` holds those already passed. -/
def itemValues (later : List Value) : List (List (String × Node)) → List Value
  | [] => later
  | fields :: rest => itemValues (.record (fieldValues fields) :: later) rest

end

namespace Fields

/-- Puts a node in the place of the one with the same name. -/
def replace (fields : Fields) (name : String) (node : Node) : Fields :=
  fields.map fun field => if field.1 = name then (name, node) else field

/-! ## Keys -/

/-- Gives a key its value; `takesKeys` says whether the table may take it. The
tables on the path of the key are made where they are missing, and none of those
that are there may have been declared by a header. -/
def assign (value : Value) (name : String) :
    (path : List String) → (takesKeys : Bool) → Fields → Option Fields
  | [], takesKeys, fields =>
    if takesKeys && (fields.lookup name).isNone then some (fields ++ [(name, .value value)])
    else none
  | first :: path, _, fields =>
    match fields.lookup first with
    | none => do
      let inner ← assign value name path true []
      some (fields ++ [(first, .table .dotted inner)])
    | some (.table .declared _) => none
    | some (.table origin inner) => do
      let inner ← assign value name path (origin = .dotted) inner
      some (fields.replace first (.table origin inner))
    | some (.tables (latest :: earlier)) => do
      let latest ← assign value name path false latest
      some (fields.replace first (.tables (latest :: earlier)))
    | some _ => none

/-! ## Headers -/

/-- Changes the table that a header names. The tables on its path are made where
they are missing; of several tables with one header the latest is meant. -/
def atPath (change : Fields → Option Fields) : (path : List String) → Fields → Option Fields
  | [], fields => change fields
  | first :: path, fields =>
    match fields.lookup first with
    | none => do some (fields ++ [(first, .table .implied (← atPath change path []))])
    | some (.table origin inner) => do
      some (fields.replace first (.table origin (← atPath change path inner)))
    | some (.tables (latest :: earlier)) => do
      some (fields.replace first (.tables ((← atPath change path latest) :: earlier)))
    | some _ => none

/-- Declares a table. It may have been passed through before, but not declared. -/
def declare (name : String) (fields : Fields) : Option Fields :=
  match fields.lookup name with
  | none => some (fields ++ [(name, .table .declared [])])
  | some (.table .implied inner) => some (fields.replace name (.table .declared inner))
  | some _ => none

/-- Declares one more of several tables with the same name. -/
def declareItem (name : String) (fields : Fields) : Option Fields :=
  match fields.lookup name with
  | none => some (fields ++ [(name, .tables [[]])])
  | some (.tables items) => some (fields.replace name (.tables ([] :: items)))
  | some _ => none

end Fields

end Overseer.Toml
