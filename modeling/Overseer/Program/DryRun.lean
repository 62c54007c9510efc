import Overseer.TaskFile.Basic
import Overseer.Text.Quoted
import Overseer.Time.SpanText

/-!
# Dry runs

The report of a dry run: the task, the options of its supervision, the processes
in declaration order, and the launch order.
-/

namespace Overseer

namespace DryRun

def taskLines (task : TaskSpec) : List String :=
  ["  task = " ++ task.name,
    "  task.max_failures = " ++ Nat.repr task.maxFailures.toNat,
    "  task.max_concurrency = " ++ Nat.repr task.maxConcurrency.toNat,
    "  task.resources = cpu " ++ shortestText task.resources.cpu ++ " / ram " ++
      Nat.repr task.resources.ram.toNat ++ " B / disk " ++
      Nat.repr task.resources.disk.toNat ++ " B"]

def optionLines (options : SupervisorOptions) : List String :=
  ["  config.failure_counting = " ++ options.scheduling.counting.title,
    "  config.min_duration_policy = " ++ options.scheduling.minDuration.title,
    "  config.drain_timeout = " ++ options.drainTimeout.text]

def processLines (precedence : Precedence) (process : ProcessSpec) : List String :=
  let after := precedence.dependenciesOf process.name
  ["  - " ++ process.name,
    "      cmdline: " ++ process.cmdline,
    "      max_failures: " ++ Nat.repr process.maxFailures.toNat,
    "      min_duration: " ++ process.minDuration.text] ++
    if after.isEmpty then [] else ["      after: " ++ Text.quotedList after]

/-- The report on a task. -/
def text (task : TaskSpec) (options : SupervisorOptions) : String :=
  let lines :=
    ["taskwarden dry-run"] ++ taskLines task ++ optionLines options ++
      ["", "processes (" ++ Nat.repr task.processes.length ++ "):"] ++
      task.processes.flatMap (processLines task.precedence) ++
      ["", "launch order: " ++ " -> ".intercalate task.precedence.order]
  String.join (lines.map (· ++ "\n"))

end DryRun

end Overseer
