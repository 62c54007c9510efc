import Overseer.Tools.Input
import Overseer.Tools.Records.ProgramReader
import Overseer.Tools.Records.Separator
import Overseer.Tools.Records.Value

/-!
# States of record programs

What a record program carries from one step to the next: its variables, the record with its
fields, and the streams that it reads and writes.
-/

namespace Overseer.Records

/-- What a variable holds. -/
inductive Content
  | scalar (value : Value)
  /-- A table, or what may become one. -/
  | table (number : Nat)

/-- A file or a command that is written to. -/
structure OutputStream where
  name : Octets
  isCommand : Bool
  number : Nat
  child : Option ProcessId := none
  /-- What is still to be written. -/
  held : Octets := ""

/-- A file or a command that records are read from. -/
structure InputStream where
  name : Octets
  isCommand : Bool
  reader : RecordReader
  child : Option ProcessId := none

structure State where
  globals : List (Octets × Content)
  /-- The parameters of the function that is being carried out. -/
  locals : List (Octets × Content) := []
  tables : Array Table := #[]
  record : Value := .read ""
  fields : Array Value := #[]
  outputs : List OutputStream := []
  inputs : List InputStream := []
  /-- The file that the records of the program come from. -/
  reader : Option RecordReader := none
  /-- The number of the argument that is looked at next for a file. -/
  nextArgument : Nat := 1
  /-- Whether a file was named, or taken without a name. -/
  hadFile : Bool := false
  /-- The places of the rules for a range that has begun. -/
  openRanges : List Nat := []
  seed : Nat := 0
  /-- The number that the next random number comes from. -/
  chance : Nat := 0
  status : Nat := 0

/-- Why the statements that follow are not carried out. -/
inductive Jump
  | next
  | nextFile
  | leave
  | again
  | return (value : Value)
  | exit
  /-- A fault that ends the program. -/
  | fault

abbrev Run := ExceptT Jump (StateT State Work)

namespace Run

/-- Does one round after another, until one comes to a result. -/
def iterate (round : σ → Run (σ ⊕ α)) (start : σ) : Run α :=
  ExceptT.mk fun state =>
    Work.iterate (fun (place, state) => do
      Work.pause
      match ← (round place).run.run state with
      | (.ok (.inl place), state) => return .inl (place, state)
      | (.ok (.inr result), state) => return .inr (.ok result, state)
      | (.error jump, state) => return .inr (.error jump, state)) (start, state)

/-- Does a part of a program and gives how it ended. -/
def attempt (run : Run α) : Run (Except Jump α) :=
  ExceptT.mk do return .ok (← run.run)

/-- Ends the program with a message. -/
def fail (invocation : Invocation) (message : Octets) : Run α := do
  Tool.warn invocation message
  modify fun state => { state with status := 2 }
  throw .fault

/-! ## Variables -/

/-- What a name stands for; parameters hide other variables. -/
def content? (name : Octets) : Run (Option Content) := do
  let state ← get
  match state.locals.lookup name with
  | some content => return some content
  | none => return state.globals.lookup name

def setContent (name : Octets) (content : Content) : Run Unit :=
  modify fun state =>
    let set (entries : List (Octets × Content)) : List (Octets × Content) :=
      (name, content) :: entries.filter (·.1 ≠ name)
    if (state.locals.lookup name).isSome then { state with locals := set state.locals }
    else { state with globals := set state.globals }

/-- The value of a variable that no parameter hides. -/
def globalValue (name : Octets) : Run Value := do
  match (← get).globals.lookup name with
  | some (.scalar value) => return value
  | _ => return .unset

/-- The text of a value. -/
def textOf (value : Value) : Run Octets := do
  match value with
  | .number number =>
    let format ← globalValue "CONVFMT"
    return numberText (format.toText "%.6g") number
  | _ => return value.toText ""

def globalText (name : Octets) : Run Octets := do textOf (← globalValue name)

def setGlobal (name : Octets) (value : Value) : Run Unit :=
  modify fun state =>
    { state with globals := (name, .scalar value) :: state.globals.filter (·.1 ≠ name) }

def setCount (name : Octets) (count : Nat) : Run Unit :=
  setGlobal name (.number (ofWhole count))

/-! ## Records and fields -/

/-- The expression that a text writes; the program ends if it writes none. -/
def regexOf (invocation : Invocation) (source : Octets) : Run Regex := do
  match Reading.regexOf? source.toList with
  | some regex => return regex
  | none => fail invocation ("regular expression compile failed (syntax error)\n" ++ source)

/-- The separator of fields that a text stands for. -/
def fieldSeparator (invocation : Invocation) (text : Octets) : Run Separator := do
  match text.toList with
  | [] => return .nothing
  | [' '] => return .blanks
  | [c] => return .char c
  | _ => return .regex (← regexOf invocation text)

/-- The separator of records that a text stands for. -/
def recordSeparator (invocation : Invocation) (text : Octets) : Run Separator := do
  match text.toList with
  | [] => return .emptyLines
  | [c] => return .char c
  | _ => return .regex (← regexOf invocation text)

/-- Makes a text the record. -/
def setRecord (invocation : Invocation) (record : Value) : Run Unit := do
  let text ← textOf record
  let separator ← fieldSeparator invocation (← globalText "FS")
  let fields := ((separator.parts text).map Value.read).toArray
  modify fun state => { state with record, fields }

/-- Puts the record together from its fields. -/
def rebuildRecord : Run Unit := do
  let separator ← globalText "OFS"
  let texts ← (← get).fields.toList.mapM textOf
  modify fun state => { state with record := .read (separator.intercalate texts) }

/-- The greatest number of fields. -/
def mostFields : Nat := 1000000

/-- Says anew how many fields there are. -/
def setFieldCount (invocation : Invocation) (count : Int) : Run Unit := do
  if count < 0 || (mostFields : Int) < count then
    fail invocation ("run time error: negative value assigned to NF: " ++ integerText count)
  else
    modify fun state =>
      let kept := state.fields.extract 0 count.toNat
      { state with
        fields := kept ++ Array.replicate (count.toNat - kept.size) (.read "") }
    rebuildRecord

/-- The number of a field that a value gives. -/
def fieldNumber (invocation : Invocation) (value : Value) : Run Nat := do
  let number := wholePart value.toNumber
  if number < 0 then fail invocation ("run time error: negative field index $" ++ integerText number)
  else if (mostFields : Int) < number then
    fail invocation ("run time error: field index $" ++ integerText number ++ " exceeds limit")
  else return number.toNat

def field (number : Nat) : Run Value := do
  let state ← get
  if number = 0 then return state.record else return state.fields.getD (number - 1) .unset

def setField (invocation : Invocation) (number : Nat) (value : Value) : Run Unit := do
  if number = 0 then setRecord invocation value
  else do
    modify fun state =>
      let missing := number - state.fields.size
      let fields := state.fields ++ Array.replicate missing (.read "")
      { state with fields := fields.setIfInBounds (number - 1) value }
    rebuildRecord

/-! ## Places of values -/

def variableValue (name : Octets) : Run Value := do
  if name = "NF" then return .number (ofWhole (← get).fields.size)
  else
    match ← content? name with
    | some (.scalar value) => return value
    | _ => return .unset

def setVariable (invocation : Invocation) (name : Octets) (value : Value) : Run Unit := do
  if name = "NF" && ((← get).locals.lookup name).isNone then
    setFieldCount invocation (wholePart value.toNumber)
  else setContent name (.scalar value)

/-- Adds an empty table, and gives its number. -/
def newTable : Run Nat := do
  let number := (← get).tables.size
  modify fun state => { state with tables := state.tables.push {} }
  return number

/-- The number of the table that a name stands for, which is a table from now on. -/
def tableNumber (name : Octets) : Run Nat := do
  match ← content? name with
  | some (.table number) => return number
  | _ => do
    let number ← newTable
    setContent name (.table number)
    return number

def table (number : Nat) : Run Table := do return (← get).tables.getD number {}

def setTable (number : Nat) (table : Table) : Run Unit :=
  modify fun state => { state with tables := state.tables.setIfInBounds number table }

/-- The key that some values make together. -/
def keyOf (values : List Value) : Run Octets := do
  match values with
  | [value] => textOf value
  | _ => do
    let separator ← globalText "SUBSEP"
    return separator.intercalate (← values.mapM textOf)

/-- The value of a key, which is in the table from now on. -/
def element (number : Nat) (key : Octets) : Run Value := do
  let (value, table) := (← table number).look key
  setTable number table
  return value

def setElement (number : Nat) (key : Octets) (value : Value) : Run Unit := do
  setTable number ((← table number).put key value)

end Run

end Overseer.Records
