import Overseer.Policy
import Overseer.Program.Verbosity

/-!
# Command lines

`CommandLine.parse` reads the arguments of the program. Arguments are taken one
by one, and the first fault counts, with one exception: the value of an option
is looked at only when the next known option comes, or at the end, so that an
argument nobody knows is reported before it.
-/

namespace Overseer

/-- What the arguments ask for. -/
structure CommandLine where
  task : String := "Task.toml"
  logLevel : Option LogLevel := none
  dryRun : Bool := false
  events : Option String := none
  counting : Option FailureCounting := none
  minDuration : Option MinDurationPolicy := none
  deriving DecidableEq, Inhabited

/-- How much of the help is asked for. -/
inductive HelpLength
  | summary
  | full
  deriving DecidableEq

/-- Why arguments are not carried out. Two of the causes are requests. -/
inductive UsageError
  | displayHelp (length : HelpLength)
  | displayVersion
  | unknownArgument
  | invalidValue
  | valueValidation
  | argumentConflict
  | tooManyValues
  deriving DecidableEq

namespace CommandLine

/-! ## Options -/

/-- The options that take a value. -/
inductive Setting
  | task
  | logLevel
  | events
  | counting
  | minDuration
  deriving DecidableEq

/-- The options that stand alone. -/
inductive Switch
  | dryRun
  | help (length : HelpLength)
  | version
  deriving DecidableEq

def settingOf? : String → Option Setting
  | "task" => some .task
  | "log-level" => some .logLevel
  | "events" => some .events
  | "failure-counting" => some .counting
  | "min-duration-policy" => some .minDuration
  | _ => none

def switchOf? : String → Option Switch
  | "dry-run" => some .dryRun
  | "help" => some (.help .full)
  | "version" => some .version
  | _ => none

/-- The short form of a switch. -/
def letterOf? : Char → Option Switch
  | 'h' => some (.help .summary)
  | 'V' => some .version
  | _ => none

/-! ## Reading -/

/-- The state between two arguments. -/
structure Reading where
  line : CommandLine := {}
  /-- The settings that have their value. -/
  settled : List Setting := []
  /-- The setting that was named last, and its value if it came already. -/
  pending : Option (Setting × Option String) := none
  /-- Whether only plain arguments may follow. -/
  plainOnly : Bool := false

namespace Reading

/-- A path must not be empty. -/
def path (value : String) : Except UsageError String :=
  if value.isEmpty then .error .invalidValue else .ok value

/-- Takes over the value of a setting. -/
def apply (line : CommandLine) (setting : Setting) (value : String) :
    Except UsageError CommandLine :=
  match setting with
  | .task => do return { line with task := ← path value }
  | .events => do return { line with events := some (← path value) }
  | .logLevel =>
    match LogLevel.ofName? value with
    | some level => .ok { line with logLevel := some level }
    | none => .error .invalidValue
  | .counting =>
    match FailureCounting.parse value with
    | .ok counting => .ok { line with counting := some counting }
    | .error _ => .error .valueValidation
  | .minDuration =>
    match MinDurationPolicy.parse value with
    | .ok policy => .ok { line with minDuration := some policy }
    | .error _ => .error .valueValidation

/-- Gives a setting its value: it must have one, and must not have had one. -/
def settle (reading : Reading) (setting : Setting) : Option String → Except UsageError Reading
  | none => .error .invalidValue
  | some value =>
    if setting ∈ reading.settled then .error .argumentConflict
    else do
      let line ← apply reading.line setting value
      return { reading with line, settled := setting :: reading.settled }

/-- Settles the pending setting. -/
def resolve (reading : Reading) : Except UsageError Reading :=
  match reading.pending with
  | none => .ok reading
  | some (setting, value) => settle { reading with pending := none } setting value

def flip (reading : Reading) (switch : Switch) : Except UsageError Reading := do
  let reading ← reading.resolve
  match switch with
  | .help length => .error (.displayHelp length)
  | .version => .error .displayVersion
  | .dryRun =>
    if reading.line.dryRun then .error .argumentConflict
    else return { reading with line := { reading.line with dryRun := true } }

/-- Takes an option with two dashes, given without them. -/
def long (reading : Reading) (argument : String) : Except UsageError Reading :=
  let (name, attached) :=
    match argument.toList.span (· ≠ '=') with
    | (name, _ :: value) => (String.ofList name, some (String.ofList value))
    | (name, []) => (String.ofList name, none)
  match settingOf? name, switchOf? name with
  | some setting, _ => do
    let reading ← reading.resolve
    match attached with
    | some value => reading.settle setting (some value)
    | none => return { reading with pending := some (setting, none) }
  | none, some switch =>
    if attached.isSome then .error .tooManyValues else reading.flip switch
  | none, none => .error .unknownArgument

/-- Takes letters after one dash. -/
def short (reading : Reading) : List Char → Except UsageError Reading
  | [] => .ok reading
  | letter :: rest =>
    match letterOf? letter with
    | some switch => do (← reading.flip switch).short rest
    | none => .error .unknownArgument

/-- Takes an argument without dashes: the value of the pending setting. -/
def plain (reading : Reading) (argument : String) : Except UsageError Reading :=
  match reading.pending with
  | some (setting, none) =>
    if reading.plainOnly then .error .unknownArgument
    else .ok { reading with pending := some (setting, some argument) }
  | _ => .error .unknownArgument

def take (reading : Reading) (argument : String) : Except UsageError Reading :=
  if reading.plainOnly then reading.plain argument
  else
    match argument.toList with
    | ['-', '-'] => .ok { reading with plainOnly := true }
    | '-' :: '-' :: rest => reading.long (String.ofList rest)
    | '-' :: letter :: rest => reading.short (letter :: rest)
    | _ => reading.plain argument

end Reading

def parse (arguments : List String) : Except UsageError CommandLine := do
  let reading ← arguments.foldlM Reading.take {}
  return (← reading.resolve).line

end CommandLine

end Overseer
