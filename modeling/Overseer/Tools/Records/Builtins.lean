import Overseer.Time.Calendar
import Overseer.Tools.Records.Format
import Overseer.Tools.Records.Interpreter

/-!
# Builtins

The functions that are there without being written. Some of them change a place or a table;
the others only need the values of their arguments.
-/

namespace Overseer.Records.Interpreter

/-! ## Expressions that match -/

/-- The expression that an expression stands for: itself, or the one that its text writes. -/
def pattern (interpreter : Interpreter) (value : Expr) : Run Regex := do
  match value with
  | .regex regex => return regex
  | _ => Run.regexOf interpreter.setting.invocation (← Run.textOf (← interpreter.value value))

def hasMatch (regex : Regex) (value : Value) : Run Bool := do
  return regex.isIn (← Run.textOf value).toList.toArray

/-- A replacement for a match. An ampersand stands for the match, unless there is a
backslash before it. -/
def replacement (found : List Char) : List Char → List Char
  | '\\' :: '\\' :: '&' :: rest => '\\' :: found ++ replacement found rest
  | '\\' :: '&' :: rest => '&' :: replacement found rest
  | '&' :: rest => found ++ replacement found rest
  | c :: rest => c :: replacement found rest
  | [] => []

/-- A text with replacements between the rest of it. -/
def replaced (text : Array Char) (change : List Char) : (start : Nat) → List (Nat × Nat) →
    List Char
  | start, [] => (text.extract start text.size).toList
  | start, (first, last) :: rest =>
    (text.extract start first).toList ++
      replacement (text.extract first last).toList change ++ replaced text change last rest

/-- Replaces the matches in a place, or the first of them, and gives their number. -/
def replaceIn (interpreter : Interpreter) (isAll : Bool) (pattern change : Expr)
    (place : Place) : Run Value := do
  let regex ← interpreter.pattern pattern
  let change ← Run.textOf (← interpreter.value change)
  let target ← interpreter.target place
  let text := (← Run.textOf (← valueAt target)).toList.toArray
  let found := occurrences regex text
  let found := if isAll then found else found.take 1
  if !found.isEmpty then
    interpreter.setAt target (.text (String.ofList (replaced text change.toList 0 found)))
  return .number (ofWhole found.length)

/-! ## Builtins -/

/-- A part of a text: so many characters from a place on, which is counted from one. From a
place before the first, as many more are taken. -/
def partOf (text : Octets) (start : Int) (count : Option Int) : Octets :=
  let skipped := (start - 1).toNat
  match count with
  | none => (text.drop skipped).toString
  | some count =>
    let count := if start ≤ 0 then count - start else count
    ((text.drop skipped).take count.toNat).toString

/-- The place of a text in another, counted from one; zero if it is not there. -/
def indexOf (text part : List Char) : Nat :=
  ((List.range (text.length + 1)).find? fun place => part.isPrefixOf (text.drop place)).elim 0
    (· + 1)

/-- The next of the numbers that random ones come from. -/
def nextChance (chance : Nat) : Nat :=
  (chance * 6364136223846793005 + 1442695040888963407) % powerOfTwo 64

/-- Begins the random numbers anew, and gives what they began with before. -/
def seed (value : Float) : Run Value := do
  let before := (← get).seed
  let next := (wholePart value).natAbs
  modify fun state => { state with seed := next, chance := nextChance (nextChance next) }
  return .number (ofWhole before)

/-- Lays out values as a format says. The beginning is put out even if the rest fails. -/
def formatText (interpreter : Interpreter) (values : List Value) (put : Octets → Run Unit) :
    Run Unit := do
  let format ← Run.textOf (values.headD .unset)
  let numbers ← Run.globalText "CONVFMT"
  let (octets, fault) := formatted numbers (format.length + 1) 1 format.toList values.tail
  put octets
  match fault with
  | none => return
  | some fault => Run.failWhileRunning interpreter.setting (fault.text format)

/-- What a builtin gives for the values of its arguments. -/
def applyTo (interpreter : Interpreter) (builtin : Builtin) (values : List Value) :
    Run Value := do
  let setting := interpreter.setting
  let first := values.headD .unset
  let second := values.tail.headD .unset
  let whole (number : Float) : Int := wholePart number
  let ofFloat (function : Float → Float) : Value := .number (function first.toNumber)
  let ofInt (number : Int) : Value := .number (ofWhole number)
  match builtin with
  | .length => do
    let text ← if values.isEmpty then Run.textOf (← Run.field 0) else Run.textOf first
    return ofInt text.length
  | .part => do
    let count := (values.drop 2).head?.map fun value => whole value.toNumber
    return .text (partOf (← Run.textOf first) (whole second.toNumber) count)
  | .index => do
    return ofInt (indexOf (← Run.textOf first).toList (← Run.textOf second).toList)
  | .lower => return .text ((← Run.textOf first).map Char.toLower)
  | .upper => return .text ((← Run.textOf first).map Char.toUpper)
  | .whole => return ofFloat fun number => if number < 0 then number.ceil else number.floor
  | .sine => return ofFloat Float.sin
  | .cosine => return ofFloat Float.cos
  | .angle => return .number (Float.atan2 first.toNumber second.toNumber)
  | .exponential => return ofFloat Float.exp
  | .logarithm => return ofFloat Float.log
  | .root => return ofFloat Float.sqrt
  | .random => do
    let chance := nextChance (← get).chance
    modify fun state => { state with chance }
    return .number (ofWhole (chance / powerOfTwo 32) / 4294967296.0)
  | .seed =>
    if values.isEmpty then do seed (ofWhole (CalendarTime.ofInstant (← Work.now)).epochSeconds)
    else seed first.toNumber
  | .run => do return ofInt (← Run.runCommand setting (← Run.textOf first))
  | .close => do return ofInt (← Run.closeNamed setting (← Run.textOf first))
  | .flush => do
    if values.isEmpty then do
      Run.flushAll setting
      return .number 0
    else
      let name ← Run.textOf first
      match (← get).outputs.find? (·.name = name) with
      | none => return .number (-1)
      | some stream => do
        Run.flushStream setting stream
        return .number 0
  | .seconds => do return ofInt (CalendarTime.ofInstant (← Work.now)).epochSeconds
  | .date => do
    let format ← if values.isEmpty then pure "%c" else Run.textOf first
    let moment ←
      if values.length < 2 then Work.now else pure (.ofSeconds (whole second.toNumber).toNat)
    return .text ((CalendarTime.ofInstant moment).format format)
  | .split | .replace | .replaceAll | .search | .format => return .unset

/-- Divides a text, puts the parts in a table, and gives their number. -/
def divide (interpreter : Interpreter) (text : Expr) (table : Octets) (divider : Option Expr) :
    Run Value := do
  let invocation := interpreter.setting.invocation
  let text ← Run.textOf (← interpreter.value text)
  let separator ←
    match divider with
    | none => do Run.fieldSeparator invocation (← Run.globalText "FS")
    | some (.regex regex) => pure (.regex regex)
    | some value => do Run.fieldSeparator invocation (← Run.textOf (← interpreter.value value))
  let parts := separator.parts text
  Run.setTable (← Run.tableNumber table) (.ofList (parts.map .read))
  return .number (ofWhole parts.length)

/-- Looks for a match, and says where it is. -/
def search (interpreter : Interpreter) (text pattern : Expr) : Run Value := do
  let text := (← Run.textOf (← interpreter.value text)).toList.toArray
  let regex ← interpreter.pattern pattern
  let (start, length) : Int × Int :=
    match regex.find? text 0 with
    | some found => (found.first + 1, (found.last : Int) - found.first)
    | none => (0, -1)
  Run.setGlobal "RSTART" (.number (ofWhole start))
  Run.setGlobal "RLENGTH" (.number (ofWhole length))
  return .number (ofWhole start)

def apply (interpreter : Interpreter) (builtin : Builtin) (arguments : List Expr) :
    Run Value := do
  match builtin, arguments with
  | .length, [.place (.named name)] => do
    match ← Run.content? name with
    | some (.table number) => return .number (ofWhole (← Run.table number).size)
    | _ => interpreter.applyTo .length [← Run.variableValue name]
  | .split, text :: .place (.named table) :: rest => interpreter.divide text table rest.head?
  | .replace, [pattern, change] => interpreter.replaceIn false pattern change (.field (.number 0))
  | .replace, [pattern, change, .place place] =>
    interpreter.replaceIn false pattern change place
  | .replaceAll, [pattern, change] =>
    interpreter.replaceIn true pattern change (.field (.number 0))
  | .replaceAll, [pattern, change, .place place] =>
    interpreter.replaceIn true pattern change place
  | .search, [text, pattern] => interpreter.search text pattern
  | .format, arguments => do
    let values ← arguments.mapM interpreter.value
    let format ← Run.textOf (values.headD .unset)
    let numbers ← Run.globalText "CONVFMT"
    let (octets, fault) := formatted numbers (format.length + 1) 1 format.toList values.tail
    match fault with
    | none => return .text octets
    | some fault => Run.failWhileRunning interpreter.setting (fault.text format)
  | _, _ => do interpreter.applyTo builtin (← arguments.mapM interpreter.value)

end Overseer.Records.Interpreter
