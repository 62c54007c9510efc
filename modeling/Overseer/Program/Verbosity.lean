import Overseer.Text.Blank
import Overseer.Text.Lowercase

/-!
# Verbosity

How much the program logs: the level of the command line, or else the level that
the environment names, or else `info`.
-/

namespace Overseer

inductive LogLevel
  | error
  | warn
  | info
  | debug
  | trace
  deriving DecidableEq, Inhabited

namespace LogLevel

def name : LogLevel → String
  | error => "error"
  | warn => "warn"
  | info => "info"
  | debug => "debug"
  | trace => "trace"

/-- The level as a heading word. -/
def title : LogLevel → String
  | error => "Error"
  | warn => "Warn"
  | info => "Info"
  | debug => "Debug"
  | trace => "Trace"

def ofName? : String → Option LogLevel
  | "error" => some error
  | "warn" => some warn
  | "info" => some info
  | "debug" => some debug
  | "trace" => some trace
  | _ => none

/-- The level that a word of the environment stands for, in any letter case and
with blanks around it. -/
def ofWord? (word : String) : Option LogLevel :=
  match Text.lower (Text.trim word) with
  | "warning" => some warn
  | name => ofName? name

/-- The variable of the environment that names a level. -/
def environmentVariable : String := "TASKWARDEN_LOG"

/-- Whether the records of the level `info` are shown. -/
def showsInfo : LogLevel → Bool
  | error | warn => false
  | info | debug | trace => true

/-- The level to log at. -/
def effective (chosen : Option LogLevel) (word : Option String) : LogLevel :=
  chosen.getD ((word.bind ofWord?).getD info)

end LogLevel

end Overseer
