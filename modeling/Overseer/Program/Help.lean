import Overseer.Program.CommandLine

/-!
# Help

The texts that the program shows about itself: a summary with a line for every
option, and a full help that describes each option in paragraphs of its own.
-/

namespace Overseer

/-- What the help says about an option. -/
structure OptionHelp where
  letter : Option Char := none
  /-- The name, with a placeholder for the value. -/
  form : String
  /-- What the option does, in one sentence. -/
  summary : String
  /-- The paragraphs of the full help. -/
  details : List String := [summary]
  /-- What is known of the value, in square brackets. -/
  remark : Option String := none

namespace OptionHelp

/-- The option as it is written, in a column of its own. -/
def usage (option : OptionHelp) : String :=
  (match option.letter with
    | some letter => "  -" ++ String.singleton letter ++ ", --"
    | none => "      --") ++ option.form

/-- The column of the descriptions in the summary. -/
def summaryColumn : Nat := 38

/-- The option on one line. -/
def line (option : OptionHelp) : String :=
  let padding := "".pushn ' ' (summaryColumn - option.usage.length)
  option.usage ++ padding ++ " ".intercalate (option.summary :: option.remark.toList)

/-- The option with its paragraphs, an indented empty line between them. -/
def block (option : OptionHelp) : String :=
  let margin := "".pushn ' ' 10
  let separator := "\n" ++ margin ++ "\n"
  let paragraphs := (option.details ++ option.remark.toList).map (margin ++ ·)
  option.usage ++ "\n" ++ separator.intercalate paragraphs

end OptionHelp

namespace Help

def version : String := "taskwarden 0.1.0\n"

def options (length : HelpLength) : List OptionHelp :=
  [{ form := "task <PATH>"
     summary := "Path to the task file (TOML)"
     details := ["Path to the task file (TOML).",
       "Default: `Task.toml` in the current working directory."]
     remark := some "[default: Task.toml]" },
   { form := "log-level <LEVEL>"
     summary := "Logging level (error, warn, info, debug, trace)"
     details := ["Logging level (error, warn, info, debug, trace).",
       "If omitted, `TASKWARDEN_LOG` or a default level will be used."]
     remark := some "[possible values: error, warn, info, debug, trace]" },
   { form := "dry-run"
     summary := "Parse + validate, print the launch order, but don't run anything" },
   { form := "events <PATH>"
     summary := "Append every state transition to this file as JSON lines" },
   { form := "failure-counting <MODE>"
     summary := "Override `[config].failure_counting` (\"processes\" or \"attempts\")" },
   { form := "min-duration-policy <POLICY>"
     summary := "Override `[config].min_duration_policy` (\"observe\" or \"delay_restart\")" },
   { letter := some 'h'
     form := "help"
     summary :=
       match length with
       | .summary => "Print help (see more with '--help')"
       | .full => "Print help (see a summary with '-h')" },
   { letter := some 'V'
     form := "version"
     summary := "Print version" }]

/-- The help of the given length. -/
def text (length : HelpLength) : String :=
  let entries :=
    match length with
    | .summary => "\n".intercalate ((options length).map (·.line))
    | .full => "\n\n".intercalate ((options length).map (·.block))
  "Supervise a task's processes: ordering constraints, retries and a failure budget.\n\n" ++
    "Usage: taskwarden [OPTIONS]\n\nOptions:\n" ++ entries ++ "\n"

end Help

end Overseer
