import Overseer.Program.Help
import Overseer.Program.Run
import Overseer.Program.Verbosity

/-!
# The program

`Program.execute` is the whole program: from its arguments to its exit code and
what it writes. The exit code is 0 when the task succeeds or nothing was to be
supervised, 1 when the task fails or the run comes to nothing, 2 when the
arguments are not understood, and 101 when the run breaks off.
-/

namespace Overseer

/-- What the program leaves behind besides files. -/
structure Exit where
  code : UInt32
  output : String := ""
  /-- What goes to the error stream. -/
  notices : String := ""

namespace Program

/-- The exit that a usage error leads to. -/
def usageExit : UsageError → Exit
  | .displayHelp length => { code := 0, output := Help.text length }
  | .displayVersion => { code := 0, output := Help.version }
  | _ => { code := 2, notices := "error: the arguments are not understood\n" }

/-- The notice about a run that came to nothing. -/
def notice (error : RunError) : String :=
  "taskwarden error: " ++ ": ".intercalate (error.context?.toList ++ error.cause?.toList) ++ "\n"

/-- The exit of a run. -/
def runExit : Except RunError RunResult → Exit
  | .ok (.report text) => { code := 0, output := text }
  | .ok (.supervised result) =>
    { code := if result.status = .success then 0 else 1
      output := result.toJson.pretty ++ "\n" }
  | .error .brokenOff => { code := 101, notices := Ending.brokenOffMessage ++ "\n" }
  | .error error => { code := 1, notices := notice error }

/-- Executes the program with its arguments and the log level that the environment
names, in a workshop. -/
def execute (arguments : List String) (levelWord : Option String) (workshop : Workshop) :
    Exit × Workshop :=
  match CommandLine.parse arguments with
  | .error error => (usageExit error, workshop)
  | .ok line =>
    let (outcome, workshop) := line.run workshop
    let exit := runExit outcome
    let level := LogLevel.effective line.logLevel levelWord
    let log := if level.showsInfo then workshop.logged else ""
    ({ exit with notices := log ++ exit.notices }, workshop)

end Program

end Overseer
