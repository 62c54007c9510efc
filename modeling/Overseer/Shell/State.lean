import Overseer.Machine.Program
import Overseer.Shell.Grammar

/-!
# Shell states

What a shell carries from one command to the next: variables, functions, options,
traps, and the commands that it has in the background.
-/

namespace Overseer.Shell

structure Variable where
  /-- The value; none for a name that was only marked. -/
  value : Option Octets
  isExported : Bool := false
  isReadOnly : Bool := false
  deriving Inhabited

/-- A command in the background, or what has become of it. -/
structure Job where
  number : Nat
  /-- The processes of the command, the last of which gives its status. -/
  processes : List (ProcessId × Option Departure)
  /-- Whether its status was asked for after its end. -/
  wasAsked : Bool := false

/-- Where the arguments of a command are looked at for options. -/
structure OptionPlace where
  /-- The number of the next argument. -/
  index : Nat := 1
  /-- The number of letters of it that were looked at. -/
  letters : Nat := 0

structure State where
  /-- The name that the shell goes by. -/
  name : Octets
  arguments : List Octets := []
  bindings : List (Octets × Variable) := []
  functions : List (Octets × Command) := []
  aliases : List (Octets × Octets) := []
  /-- The letters of the options that are set. -/
  options : List Char := []
  /-- The status of the last command. -/
  status : Nat := 0
  /-- The status of the last command inside of a word. -/
  innerStatus : Nat := 0
  /-- The command line to run on a signal, or at the end for the number zero; an empty one
  ignores the signal. -/
  traps : List (Signal × Octets) := []
  /-- The status before the command line for a signal or for the end, while that runs. -/
  trapStatus : Option Nat := none
  /-- The signals that were ignored from the beginning. -/
  deaf : List Signal := []
  jobs : List Job := []
  /-- The process that was last put in the background. -/
  lastBackground : Option ProcessId := none
  /-- The number of the first shell of this kind. -/
  self : ProcessId := 0
  folder : Nat
  /-- The path of the folder as it was asked for. -/
  path : Octets := "/"
  mask : Nat := 0o022
  /-- How many loops stand around the command. -/
  loopDepth : Nat := 0
  /-- How many function calls stand around the command. -/
  functionDepth : Nat := 0
  /-- What variables were before the functions around the command made them their own,
  innermost function first. -/
  kept : List (List (Octets × Option Variable)) := []
  line : Nat := 1
  /-- The command that messages are about. -/
  commandName : Option Octets := none
  optionPlace : OptionPlace := {}

/-- Why the commands that follow are not carried out. -/
inductive Escape
  /-- Leaves so many loops. -/
  | leave (levels : Nat)
  /-- Goes on with the next round of the loop so many levels up. -/
  | again (levels : Nat)
  /-- Leaves a function or a script. -/
  | return
  /-- Ends the shell. -/
  | exit
  /-- A fault that ends the shell, unless it comes from a command that may fail. -/
  | fault

abbrev Script := ExceptT Escape (StateT State Work)

namespace State

/-! ## Variables -/

def value? (state : State) (name : Octets) : Option Octets :=
  (state.bindings.lookup name).bind (·.value)

/-- The value of a variable, empty if it is not set. -/
def value (state : State) (name : Octets) : Octets := (state.value? name).getD ""

def setVariable (state : State) (name : Octets) (content : Variable) : State :=
  { state with bindings := (name, content) :: state.bindings.filter (·.1 ≠ name) }

def dropVariable (state : State) (name : Octets) : State :=
  { state with bindings := state.bindings.filter (·.1 ≠ name) }

/-- The characters that fields are separated by. -/
def separators (state : State) : List Char :=
  match state.value? "IFS" with
  | some text => text.toList
  | none => [' ', '\t', '\n']

/-- What programs are told about the variables. -/
def environment (state : State) : List (Octets × Octets) :=
  state.bindings.filterMap fun (name, content) =>
    if content.isExported then content.value.map (name, ·) else none

def has (state : State) (option : Char) : Bool := state.options.contains option

def searchPath (state : State) : Octets := (state.value? "PATH").getD ""

/-! ## Parameters -/

/-- The letters of the options, as the parameter for them shows them. -/
def optionLetters (state : State) : Octets :=
  String.ofList ((['e', 'f', 'I', 'i', 'm', 'n', 's', 'x', 'v', 'V', 'E', 'C', 'a', 'b', 'u'].filter
    state.has))

/-- The value of a parameter other than the ones for all arguments. -/
def parameter? (state : State) (name : Octets) : Option Octets :=
  match name with
  | "?" => some (Nat.repr state.status)
  | "$" => some (Nat.repr state.self)
  | "!" => state.lastBackground.map Nat.repr
  | "#" => some (Nat.repr state.arguments.length)
  | "-" => some state.optionLetters
  | "0" => some state.name
  | "LINENO" => some (Nat.repr state.line)
  | _ =>
    match naturalOf? name.toList with
    | some number => state.arguments[number - 1]?
    | none => state.value? name

/-! ## Shells within shells -/

/-- The state of a shell that takes over from this one in a process of its own. Only
signals that are ignored stay so. -/
def forChild (state : State) : State :=
  { state with
    traps := state.traps.filter fun trap => trap.2.isEmpty
    jobs := []
    loopDepth := 0
    options := state.options.filter (· ≠ 'i') }

end State

namespace Script

/-- Does a script and gives how it ended. -/
def attempt (script : Script α) : Script (Except Escape α) :=
  ExceptT.mk do return .ok (← script.run)

/-- Does a script, and afterwards another in any case. -/
def andThen (script : Script α) (after : Script Unit) : Script α := do
  match ← attempt script with
  | .ok value => do
    after
    return value
  | .error escape => do
    after
    throw escape

/-- Does one round after another, until one comes to a result. -/
def iterate (round : σ → Script (σ ⊕ α)) (start : σ) : Script α :=
  ExceptT.mk fun state =>
    Work.iterate (fun (place, state) => do
      match ← (round place).run.run state with
      | (.ok (.inl place), state) => return .inl (place, state)
      | (.ok (.inr result), state) => return .inr (.ok result, state)
      | (.error escape, state) => return .inr (.error escape, state)) (start, state)

def setStatus (status : Nat) : Script Unit := modify fun state => { state with status }

/-- Writes a message about the command that is carried out. -/
def warn (message : Octets) : Script Unit := do
  let state ← get
  let about :=
    match state.commandName with
    | some name => name ++ ": "
    | none => ""
  let _ ← Work.write 2
    (state.name ++ ": " ++ Nat.repr state.line ++ ": " ++ about ++ message ++ "\n")

/-- Gives up with a message. -/
def fail (message : Octets) : Script α := do
  warn message
  setStatus 2
  throw .fault

/-- Ends the shell with a status. -/
def exit (status : Nat) : Script α := do
  setStatus status
  throw .exit

/-- Gives a variable a value. -/
def assign (name value : Octets) : Script Unit := do
  let state ← get
  let old := (state.bindings.lookup name).getD default
  if old.isReadOnly then fail (name ++ ": is read only")
  else do
    let isExported := old.isExported || state.has 'a'
    modify (·.setVariable name { old with value := some value, isExported })
    if name = "OPTIND" then
      modify fun state =>
        { state with optionPlace := { index := max 1 ((naturalOf? value.toList).getD 1) } }

/-- Takes a variable away. -/
def unset (name : Octets) : Script Unit := do
  let state ← get
  match state.bindings.lookup name with
  | some content =>
    if content.isReadOnly then fail (name ++ ": is read only")
    else modify (·.dropVariable name)
  | none => return

end Script

/-- What stands around a command. -/
structure Surroundings where
  /-- Whether others look at the status, so that failure is no reason to end. -/
  isTested : Bool := false
  /-- Whether the process has nothing to do afterwards. -/
  isLast : Bool := false

/-- What the parts of a shell are given: how commands are carried out, and how programs
are. -/
structure Interpreter where
  carryOut : Surroundings → Command → Script Unit
  launch : Launch

end Overseer.Shell
