import Overseer.Tools.Records.Streams

/-!
# Interpreters

An interpreter says how the parts of a program are evaluated and carried out. Here are the
places that hold values, and the functions of a program.
-/

namespace Overseer.Records

/-- How the parts of a program are evaluated and carried out. -/
structure Interpreter where
  setting : Setting
  functions : List Function
  value : Expr → Run Value
  perform : Statement → Run Unit

namespace Run

/-- Ends the program with a message about what it was doing. -/
def failWhileRunning (setting : Setting) (message : Octets) : Run α := do
  let file ← globalText "FILENAME"
  let inFile ← globalText "FNR"
  let all ← globalText "NR"
  fail setting.invocation
    (message ++ "\n\tFILENAME=\"" ++ file ++ "\" FNR=" ++ inFile ++ " NR=" ++ all)

end Run

namespace Interpreter

/-! ## Places -/

/-- A place whose key or number is known. -/
inductive Target
  | variable (name : Octets)
  | element (table : Nat) (key : Octets)
  | field (number : Nat)

def target (interpreter : Interpreter) : Place → Run Target
  | .named name => return .variable name
  | .element table subscripts => do
    let key ← Run.keyOf (← subscripts.mapM interpreter.value)
    return .element (← Run.tableNumber table) key
  | .field number => do
    return .field (← Run.fieldNumber interpreter.setting.invocation (← interpreter.value number))

def valueAt : Target → Run Value
  | .variable name => Run.variableValue name
  | .element table key => Run.element table key
  | .field number => Run.field number

def setAt (interpreter : Interpreter) (target : Target) (value : Value) : Run Unit :=
  match target with
  | .variable name => Run.setVariable interpreter.setting.invocation name value
  | .element table key => Run.setElement table key value
  | .field number => Run.setField interpreter.setting.invocation number value

/-! ## Functions -/

/-- What a parameter gets for an argument. A variable that was never set may become a table
in the function. -/
def argument (interpreter : Interpreter) (value : Expr) : Run Content := do
  match value with
  | .place (.named name) =>
    if name = "NF" then return .scalar (← Run.variableValue name)
    else
      match ← Run.content? name with
      | some (.table number) => return .table number
      | none | some (.scalar .unset) => return .table (← Run.tableNumber name)
      | some content => return content
  | _ => return .scalar (← interpreter.value value)

def call (interpreter : Interpreter) (name : Octets) (arguments : List Expr) : Run Value := do
  Work.pause
  match interpreter.functions.find? (·.name = name) with
  | none => Run.fail interpreter.setting.invocation ("function " ++ name ++ " never defined")
  | some function => do
    if function.parameters.length < arguments.length then
      Run.fail interpreter.setting.invocation ("too many arguments in call to " ++ name)
    let contents ← arguments.mapM interpreter.argument
    let missing := List.replicate (function.parameters.length - contents.length)
      (Content.scalar .unset)
    let outer := (← get).locals
    modify fun state => { state with locals := function.parameters.zip (contents ++ missing) }
    let ending ← Run.attempt (interpreter.perform function.body)
    modify fun state => { state with locals := outer }
    match ending with
    | .ok () => return .unset
    | .error (.return value) => return value
    | .error jump => throw jump

end Interpreter

end Overseer.Records
