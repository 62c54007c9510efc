import Overseer.TaskFile.Basic

/-!
# The document of a task file

The sections of a task file and their fields as they are written, with the values
that stand for missing ones. Only the task and its name, and the name and the
command line of a process, must be there. Times are written in whole seconds.
-/

namespace Overseer

/-! ## Sections -/

/-- The section `config`. -/
structure ConfigSection where
  counting : FailureCounting := .processes
  minDuration : MinDurationPolicy := .observe
  drainSeconds : UInt64 := 5
  deriving DecidableEq, Inhabited

/-- The section `task`. -/
structure TaskSection where
  name : String
  maxFailures : UInt32 := 1
  maxConcurrency : UInt64 := 0
  /-- The section `task.resources`. -/
  resources : Resources := {}
  deriving Inhabited

/-- A section `process`. -/
structure ProcessSection where
  name : String
  cmdline : String
  maxFailures : UInt32 := 1
  minSeconds : UInt64 := 5
  deriving DecidableEq, Inhabited

structure TaskFileDocument where
  config : ConfigSection := {}
  task : TaskSection
  processes : List ProcessSection := []
  /-- The orders of the sections `constraint`. -/
  orders : List (List ProcessName) := []
  deriving Inhabited

/-! ## What the sections stand for -/

def ConfigSection.options (config : ConfigSection) : SupervisorOptions where
  scheduling := { counting := config.counting, minDuration := config.minDuration }
  drainTimeout := .ofSeconds config.drainSeconds.toNat

def ProcessSection.spec (process : ProcessSection) : ProcessSpec where
  name := process.name
  cmdline := process.cmdline
  maxFailures := process.maxFailures
  minDuration := .ofSeconds process.minSeconds.toNat

/-- The description that a document gives. -/
def TaskFileDocument.draft (document : TaskFileDocument) : TaskFileDraft where
  options := document.config.options
  name := document.task.name
  resources := document.task.resources
  maxFailures := document.task.maxFailures
  maxConcurrency := document.task.maxConcurrency
  processes := document.processes.map (·.spec)
  orders := document.orders

/-! ## Reading sections -/

namespace TaskFileDocument

open Value (defaulted required)

variable (dialect : Dialect)

def config? (value : Value) : Option ConfigSection := do
  let fields ← value.fields? dialect
    ["failure_counting", "min_duration_policy", "drain_timeout_secs"]
  return {
    counting := ←
      defaulted fields "failure_counting" (FailureCounting.ofValue? dialect) .processes
    minDuration := ← defaulted fields "min_duration_policy" (MinDurationPolicy.ofValue? dialect)
      .observe
    drainSeconds := ← defaulted fields "drain_timeout_secs" Value.word64? 5 }

def resources? (value : Value) : Option Resources := do
  let fields ← value.fields? dialect ["cpu", "ram", "disk"]
  return {
    cpu := ← defaulted fields "cpu" Value.real? 0.0
    ram := ← defaulted fields "ram" Value.word64? 0
    disk := ← defaulted fields "disk" Value.word64? 0 }

def task? (value : Value) : Option TaskSection := do
  let fields ← value.fields? dialect ["name", "max_failures", "max_concurrency", "resources"]
  return {
    name := ← required fields "name" Value.text?
    maxFailures := ← defaulted fields "max_failures" Value.word32? 1
    maxConcurrency := ← defaulted fields "max_concurrency" Value.word64? 0
    resources := ← defaulted fields "resources" (resources? dialect) {} }

def process? (value : Value) : Option ProcessSection := do
  let fields ← value.fields? dialect ["name", "cmdline", "max_failures", "min_duration"]
  return {
    name := ← required fields "name" Value.text?
    cmdline := ← required fields "cmdline" Value.text?
    maxFailures := ← defaulted fields "max_failures" Value.word32? 1
    minSeconds := ← defaulted fields "min_duration" Value.word64? 5 }

/-- A section `constraint`, which holds one order. -/
def order? (value : Value) : Option (List ProcessName) := do
  let fields ← value.fields? dialect ["order"]
  required fields "order" (Value.listOf? Value.text?)

def ofValue? (value : Value) : Option TaskFileDocument := do
  let fields ← value.fields? dialect ["config", "task", "process", "constraint"]
  return {
    config := ← defaulted fields "config" (config? dialect) {}
    task := ← required fields "task" (task? dialect)
    processes := ← defaulted fields "process" (Value.listOf? (process? dialect)) []
    orders := ← defaulted fields "constraint" (Value.listOf? (order? dialect)) [] }

end TaskFileDocument

/-- The description that a value gives as a document. -/
def TaskFileDraft.ofValue? (dialect : Dialect) (value : Value) : Option TaskFileDraft :=
  (TaskFileDocument.ofValue? dialect value).map (·.draft)

end Overseer
