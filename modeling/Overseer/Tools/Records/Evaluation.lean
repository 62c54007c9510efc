import Overseer.Tools.Records.Builtins

/-!
# Carrying record programs out

`valueWith` and `performWith` take one step into an expression or a statement, given how the
parts of it are evaluated and carried out; `interpreterWithin` ties the knot for parts up to some
depth.
-/

namespace Overseer.Records

namespace Interpreter

/-! ## Reading records -/

/-- Puts a record that was read in a place, or makes it the record. -/
def receive (interpreter : Interpreter) (place : Option Place) (text : Octets) : Run Unit := do
  match place with
  | none => Run.setRecord interpreter.setting.invocation (.read text)
  | some place => do interpreter.setAt (← interpreter.target place) (.read text)

def readRecord (interpreter : Interpreter) (source : Source) (place : Option Place) :
    Run Value := do
  let setting := interpreter.setting
  match source with
  | .input => do
    match ← Run.nextRecord setting with
    | none => return .number 0
    | some text => do
      Run.countUp "NR"
      Run.countUp "FNR"
      interpreter.receive place text
      return .number 1
  | .file path => do
    let path ← Run.textOf (← interpreter.value path)
    match ← Run.readFrom setting false path with
    | none => return .number (-1)
    | some none => return .number 0
    | some (some text) => do
      interpreter.receive place text
      return .number 1
  | .command line => do
    let line ← Run.textOf (← interpreter.value line)
    match ← Run.readFrom setting true line with
    | some (some text) => do
      interpreter.receive place text
      return .number 1
    | _ => return .number 0

/-! ## Expressions -/

/-- Evaluates an expression. -/
def valueWith (interpreter : Interpreter) (expr : Expr) : Run Value := do
  let truth (expr : Expr) : Run Bool := do return (← interpreter.value expr).isTrue
  match expr with
  | .number value => return .number value
  | .text octets => return .text octets
  | .regex regex => do return .ofBool (← hasMatch regex (← Run.field 0))
  | .place place => do valueAt (← interpreter.target place)
  | .assign place operation value => do
    let target ← interpreter.target place
    let value ← interpreter.value value
    let value ←
      match operation with
      | none => pure value
      | some operation => do
        let before ← valueAt target
        pure (.number (operation.apply before.toNumber value.toNumber))
    interpreter.setAt target value
    return value
  | .step place amount showsBefore => do
    let target ← interpreter.target place
    let before := (← valueAt target).toNumber
    interpreter.setAt target (.number (before + amount))
    return .number (if showsBefore then before else before + amount)
  | .arithmetic operation left right => do
    let left := (← interpreter.value left).toNumber
    return .number (operation.apply left (← interpreter.value right).toNumber)
  | .negated inner => do return .number (-(← interpreter.value inner).toNumber)
  | .positive inner => do return .number (← interpreter.value inner).toNumber
  | .opposite inner => do return .ofBool (!(← truth inner))
  | .compare comparison left right => do
    let left ← interpreter.value left
    let right ← interpreter.value right
    let format ← Run.globalText "CONVFMT"
    return .compare format comparison left right
  | .match isWanted subject pattern => do
    let subject ← interpreter.value subject
    let regex ← interpreter.pattern pattern
    return .ofBool ((← hasMatch regex subject) = isWanted)
  | .both left right =>
    if ← truth left then return .ofBool (← truth right) else return .ofBool false
  | .either left right =>
    if ← truth left then return .ofBool true else return .ofBool (← truth right)
  | .choice test yes no => if ← truth test then interpreter.value yes else interpreter.value no
  | .joined left right => do
    let left ← Run.textOf (← interpreter.value left)
    return .text (left ++ (← Run.textOf (← interpreter.value right)))
  | .isKey subscripts table => do
    let key ← Run.keyOf (← subscripts.mapM interpreter.value)
    return .ofBool ((← Run.table (← Run.tableNumber table)).contains key)
  | .call name arguments => interpreter.call name arguments
  | .apply builtin arguments => interpreter.apply builtin arguments
  | .readRecord source place => interpreter.readRecord source place
  | .row items => do
    let values ← items.mapM interpreter.value
    return .text (← Run.keyOf values)

/-! ## Statements -/

/-- Puts text out to where it is to go. -/
def putTo (interpreter : Interpreter) (target : Option (Outlet × Expr)) (octets : Octets) :
    Run Unit := do
  match target with
  | none => Run.put interpreter.setting octets
  | some (outlet, name) => do
    Run.writeTo interpreter.setting outlet (← Run.textOf (← interpreter.value name)) octets

/-- The text of a value that is put out. -/
def shownText (value : Value) : Run Octets := do
  match value with
  | .number number => return numberText (← Run.globalText "OFMT") number
  | _ => Run.textOf value

/-- Puts values out as a record. -/
def print (interpreter : Interpreter) (values : List Expr) (target : Option (Outlet × Expr)) :
    Run Unit := do
  let values ← if values.isEmpty then do pure [← Run.field 0] else values.mapM interpreter.value
  let texts ← values.mapM shownText
  let between ← Run.globalText "OFS"
  interpreter.putTo target (between.intercalate texts ++ (← Run.globalText "ORS"))

/-- Does the body of a loop. Gives whether the loop goes on. -/
def round (interpreter : Interpreter) (body : Statement) : Run Bool := do
  match ← Run.attempt (interpreter.perform body) with
  | .ok () | .error .again => return true
  | .error .leave => return false
  | .error jump => throw jump

/-- Whether a test holds; one that is left out does. -/
def holds (interpreter : Interpreter) (test : Option Expr) : Run Bool := do
  match test with
  | none => return true
  | some test => return (← interpreter.value test).isTrue

/-- Carries a statement out. -/
def performWith (interpreter : Interpreter) (statement : Statement) : Run Unit := do
  match statement with
  | .nothing => return
  | .evaluate value => do
    let _ ← interpreter.value value
  | .print values target => interpreter.print values target
  | .printFormatted values target => do
    let values ← values.mapM interpreter.value
    interpreter.formatText values (interpreter.putTo target)
  | .block statements => for statement in statements do interpreter.perform statement
  | .choice test yes no =>
    if ← interpreter.holds (some test) then interpreter.perform yes else interpreter.perform no
  | .loop test step body =>
    Run.iterate (fun () => do
      if ← interpreter.holds test then
        if ← interpreter.round body then do
          interpreter.perform step
          return .inl ()
        else return .inr ()
      else return .inr ()) ()
  | .loopAfter body test =>
    Run.iterate (fun () => do
      if ← interpreter.round body then
        if ← interpreter.holds (some test) then return .inl () else return .inr ()
      else return .inr ()) ()
  | .overKeys place table body => do
    let keys := (← Run.table (← Run.tableNumber table)).keys
    Run.iterate (fun (keys : List Octets) => do
      match keys with
      | [] => return .inr ()
      | key :: keys => do
        interpreter.setAt (← interpreter.target place) (.text key)
        if ← interpreter.round body then return .inl keys else return .inr ()) keys
  | .delete table none => do Run.setTable (← Run.tableNumber table) {}
  | .delete table (some subscripts) => do
    let number ← Run.tableNumber table
    let key ← Run.keyOf (← subscripts.mapM interpreter.value)
    Run.setTable number ((← Run.table number).delete key)
  | .next => throw .next
  | .nextFile => throw .nextFile
  | .leave => throw .leave
  | .again => throw .again
  | .exit status => do
    match status with
    | none => pure ()
    | some status => do
      let status := wholePart (← interpreter.value status).toNumber
      modify fun state => { state with status := (status % 256).toNat }
    throw .exit
  | .return value => do
    match value with
    | none => throw (.return .unset)
    | some value => throw (.return (← interpreter.value value))

end Interpreter

/-- The depth that parts of a program may have, function calls among them. -/
def depthLimit : Nat := 50000

/-- The interpreter of parts up to some depth. -/
def interpreterWithin (setting : Setting) (functions : List Function) : (depth : Nat) → Interpreter
  | 0 =>
    { setting, functions
      value := fun _ => Run.fail setting.invocation "program too deeply nested"
      perform := fun _ => Run.fail setting.invocation "program too deeply nested" }
  | depth + 1 =>
    { setting, functions
      value := fun expr => (interpreterWithin setting functions depth).valueWith expr
      perform := fun statement => (interpreterWithin setting functions depth).performWith statement }

/-! ## Programs -/

namespace Run

/-- Whether a rule is for the record; one for a range remembers that it has begun. -/
def selects (interpreter : Interpreter) (place : Nat) : Selector → Run Bool
  | .beginning | .ending => return false
  | .every => return true
  | .when test => interpreter.holds (some test)
  | .range first last => do
    let isOpen ←
      if (← get).openRanges.contains place then pure true else interpreter.holds (some first)
    if isOpen then do
      let isLast ← interpreter.holds (some last)
      modify fun state =>
        let others := state.openRanges.filter (· ≠ place)
        { state with openRanges := if isLast then others else place :: others }
    return isOpen

/-- Carries out what a rule says. -/
def act (interpreter : Interpreter) (rule : Rule) : Run Unit :=
  interpreter.perform (rule.action.getD (.print [] none))

/-- Carries out the rules for a record. -/
def processRecord (interpreter : Interpreter) (rules : List (Rule × Nat)) : Run Unit := do
  for (rule, place) in rules do
    if ← selects interpreter place rule.selector then act interpreter rule

/-- Carries out the rules for one record after another. -/
def processRecords (interpreter : Interpreter) (rules : List (Rule × Nat)) : Run Unit :=
  iterate (fun () => do
    match ← nextRecord interpreter.setting with
    | none => return .inr ()
    | some text => do
      countUp "NR"
      countUp "FNR"
      setRecord interpreter.setting.invocation (.read text)
      match ← attempt (processRecord interpreter rules) with
      | .ok () | .error .next => return .inl ()
      | .error .nextFile => do
        leaveFile
        return .inl ()
      | .error jump => throw jump) ()

/-- Carries out a program. -/
def wholeProgram (setting : Setting) (program : Program) : Run Unit := do
  let interpreter := interpreterWithin setting program.functions depthLimit
  let isFirst (rule : Rule) : Bool := rule.selector matches .beginning
  let isLast (rule : Rule) : Bool := rule.selector matches .ending
  let others := program.rules.filter fun rule => !isFirst rule && !isLast rule
  let beginning ← attempt do
    for rule in program.rules.filter isFirst do act interpreter rule
    if !others.isEmpty || program.rules.any isLast then processRecords interpreter others.zipIdx
  match beginning with
  | .error .fault => throw .fault
  | _ => for rule in program.rules.filter isLast do act interpreter rule

end Run

/-- Carries out a program from a state on, and gives the status that it ends with. -/
def runProgram (setting : Setting) (program : Program) (state : State) : Work Nat := do
  let (_, state) ← (Run.wholeProgram setting program).run.run state
  let (_, state) ← (Run.closeAll setting).run.run state
  return state.status

end Overseer.Records
