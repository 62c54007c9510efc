import Overseer.EventLog.Basic
import Overseer.Proofs.Schedule.Attempts

/-!
# Ledgers

A `Ledger` is what a reader of the event stream keeps: the statuses of the task, and
the runs of each process with their numbers, states and ends. It takes one event
after the other and refuses those that fit nothing: a launch under any number but
the next one, or while an earlier run is open or has not failed, and an end of a run
that is not the one open.

`Schedule.summaries` is what a ledger should hold of the runs of a schedule, so that
each change needs one equation: its transitions take the ledger of the schedule
before it to the ledger of the schedule after it.

Results:
1. `Ledger.take?_launch`, `Ledger.take?_closing`: one transition.
2. `Changes.replay`: one operation.
3. `Schedule.summaries_of_records`, `Schedule.recorded_iff`: the records hold what
   the ledger does.
-/

namespace Overseer

/-! ## Ledgers -/

/-- What the events tell of a run. -/
structure RunSummary where
  index : UInt32
  state : ProcessState
  endedAt? : Option Instant
  deriving DecidableEq

namespace RunSummary

def isOpen (run : RunSummary) : Bool := run.endedAt?.isNone

/-- The run with the given end, unless it has one. -/
def closed (run : RunSummary) (state : ProcessState) (endedAt : Instant) : RunSummary :=
  if run.isOpen then ⟨run.index, state, some endedAt⟩ else run

end RunSummary

def Run.summary (run : Run) : RunSummary := ⟨run.id.index, run.state, run.endedAt?⟩

/-- What a reader of the event stream knows of a task. -/
structure Ledger where
  statuses : List StatusEntry := []
  /-- Empty for a process that was not launched. -/
  runs : ProcessName → List RunSummary := fun _ => []

namespace Ledger

/-- The ledger with other runs of one process. -/
def withRuns (ledger : Ledger) (process : ProcessName) (runs : List RunSummary) : Ledger :=
  { ledger with runs := Function.update ledger.runs process runs }

/-- Opens the next run of a process, all of whose runs have failed. -/
def launch? (ledger : Ledger) (id : AttemptId) : Option Ledger :=
  let runs := ledger.runs id.process
  if id.index.toNat = runs.length ∧ ∀ run ∈ runs, run.state = .failed then
    some (ledger.withRuns id.process (runs ++ [⟨id.index, .running, none⟩]))
  else none

/-- Ends the only open run of a process. -/
def close? (ledger : Ledger) (id : AttemptId) (state : ProcessState) (endedAt : Instant) :
    Option Ledger :=
  let runs := ledger.runs id.process
  if (runs.filter (·.isOpen)).map (·.index) = [id.index] then
    some (ledger.withRuns id.process (runs.map (·.closed state endedAt)))
  else none

/-- Takes one event; none if it does not fit. -/
def take? (ledger : Ledger) : Event → Option Ledger
  | .task entry => some { ledger with statuses := ledger.statuses ++ [entry] }
  | .process ⟨id, .pending, .running, _⟩ => ledger.launch? id
  | .process ⟨id, .running, .success, endedAt⟩ => ledger.close? id .success endedAt
  | .process ⟨id, .running, .failed, endedAt⟩ => ledger.close? id .failed endedAt
  | .process _ => none

/-- Takes the given events one after the other. -/
def replay? (ledger : Ledger) (events : List Event) : Option Ledger := events.foldlM take? ledger

variable {ledger : Ledger}

@[simp]
theorem replay?_nil (ledger : Ledger) : ledger.replay? [] = some ledger := rfl

@[simp]
theorem replay?_cons (ledger : Ledger) (event : Event) (rest : List Event) :
    ledger.replay? (event :: rest) = (ledger.take? event).bind (·.replay? rest) :=
  List.foldlM_cons

theorem replay?_append (ledger : Ledger) (first second : List Event) :
    ledger.replay? (first ++ second) = (ledger.replay? first).bind (·.replay? second) :=
  List.foldlM_append

/-- Statuses are always taken. -/
theorem replay?_statuses (ledger : Ledger) (entries : List StatusEntry) :
    ledger.replay? (entries.map .task) =
      some { ledger with statuses := ledger.statuses ++ entries } := by
  induction entries generalizing ledger with
  | nil => simp
  | cons entry rest ih => simp [take?, ih]

end Ledger

/-! ## Runs and their summaries -/

@[simp] theorem Run.summary_index (run : Run) : run.summary.index = run.id.index := rfl

@[simp]
theorem Run.summary_isOpen (run : Run) : run.summary.isOpen = run.isOpen := by
  obtain ⟨id, phase⟩ := run
  cases phase <;> rfl

/-- A closed run keeps its end. -/
theorem Run.summary_closed {run : Run} (hclosed : run.isOpen = false) (state : ProcessState)
    (endedAt : Instant) : run.summary.closed state endedAt = run.summary := by
  simp [RunSummary.closed, hclosed]

theorem Run.summary_close {run : Run} (hopen : run.isOpen = true) (report : Report)
    (minDuration : Span) :
    (run.close report minDuration).summary =
      run.summary.closed report.outcome.runState report.endedAt := by
  simp only [RunSummary.closed, Run.summary_isOpen, hopen, if_true]
  rfl

namespace Lifecycle

variable {life : Lifecycle}

def summaries (life : Lifecycle) : List RunSummary := life.runs.map (·.summary)

/-- A launch comes after failed runs only and has the next number. -/
theorem Coherent.before_opened {now : Instant} (h : (life.opened now).Coherent) :
    life.nextId.index.toNat = life.runs.length ∧ ∀ run ∈ life.runs, run.state = .failed := by
  have hlength : life.runs.length < 2 ^ 32 := by
    have hone : (life.opened now).runs.length = life.runs.length + 1 := List.length_append
    have hle := h.length_le
    have hlt := (life.opened now).limit_lt
    omega
  refine ⟨UInt32.toNat_ofNat_of_lt' hlength, ?_⟩
  cases h.stage with
  | pending state _ _ => cases state
  | launched earlier last runs failed _ _ =>
    rw [(List.append_inj' (runs : life.runs ++ [_] = _) rfl).1]
    exact failed

/-- The end of the open run ends the only run that is open in the summaries. -/
theorem InFlight.summaries {index : UInt32} {earlier : List Run} {last : Run}
    (h : life.InFlight index earlier last) (report : Report) :
    (life.summaries.filter (·.isOpen)).map (·.index) = [index] ∧
      (life.closedRuns report).map (·.summary) =
        life.summaries.map (·.closed report.outcome.runState report.endedAt) := by
  have hclosed : ∀ run ∈ earlier, run.isOpen = false := by
    intro run hrun
    rw [Bool.eq_false_iff]
    intro hopen
    have hrunning := (Run.isOpen_iff run).mp hopen
    rw [h.failed run hrun] at hrunning
    cases hrunning
  have hnone : (earlier.map (·.summary)).filter (·.isOpen) = [] := by
    simpa [List.filter_eq_nil_iff] using hclosed
  have hkept : (earlier.map (·.summary)).map (·.closed report.outcome.runState report.endedAt) =
      earlier.map (·.summary) := by
    rw [List.map_map]
    exact List.map_congr_left fun run hrun => Run.summary_closed (hclosed run hrun) _ _
  have hlast := Run.summary_close h.isOpen report life.spec.minDuration
  constructor
  · rw [Lifecycle.summaries, h.runs, List.map_append, List.filter_append, hnone]
    simp [h.isOpen, h.id]
  · rw [h.closedRuns, Lifecycle.summaries, h.runs, List.map_append, List.map_append,
      List.map_append, hkept, List.map_singleton, List.map_singleton, List.map_singleton, hlast]

end Lifecycle

namespace Ledger

variable {ledger : Ledger} {life : Lifecycle}

theorem take?_launch {now : Instant} (h : (life.opened now).Coherent)
    (hruns : ledger.runs life.name = life.summaries) :
    ledger.take? (.process (Transition.launch life.nextId now)) =
      some (ledger.withRuns life.name (life.opened now).summaries) := by
  obtain ⟨hnumber, hfailed⟩ := h.before_opened
  have hlegal : life.nextId.index.toNat = (ledger.runs life.name).length ∧
      ∀ run ∈ ledger.runs life.name, run.state = .failed := by
    rw [hruns, Lifecycle.summaries, List.length_map]
    exact ⟨hnumber, List.forall_mem_map.mpr hfailed⟩
  have hopened : (life.opened now).summaries =
      ledger.runs life.name ++ [⟨life.nextId.index, .running, none⟩] := by
    rw [hruns, Lifecycle.summaries, Lifecycle.opened, List.map_append]
    rfl
  rw [hopened]
  exact if_pos hlegal

theorem take?_closing {index : UInt32} (h : life.Coherent)
    (hopen : life.openAttempt? = some index) (report : Report)
    (hruns : ledger.runs life.name = life.summaries) :
    ledger.take? (.process (Transition.closing ⟨life.name, index⟩ report)) =
      some (ledger.withRuns life.name ((life.closedRuns report).map (·.summary))) := by
  have hclose : ledger.take? (.process (Transition.closing ⟨life.name, index⟩ report)) =
      ledger.close? ⟨life.name, index⟩ report.outcome.runState report.endedAt := by
    unfold Transition.closing
    cases report.outcome <;> rfl
  obtain ⟨earlier, last, hflight⟩ := h.inFlight hopen
  obtain ⟨honly, hclosed⟩ := hflight.summaries report
  rw [hclose, hclosed, ← hruns]
  exact if_pos (hruns ▸ honly)

end Ledger

/-! ## Schedules -/

namespace Schedule

variable {s t : Schedule} {life new : Lifecycle}

/-- What the events of the schedule tell of the runs of a process. -/
def summaries (schedule : Schedule) (process : ProcessName) : List RunSummary :=
  match schedule.lifecycle? process with
  | some life => life.summaries
  | none => []

theorem summaries_congr (h : t.lifecycles = s.lifecycles) : t.summaries = s.summaries := by
  funext p
  rw [summaries, summaries, lifecycle?, lifecycle?, h]

theorem summaries_self (hd : s.Distinct) (hmem : life ∈ s.lifecycles) :
    s.summaries life.name = life.summaries := by
  rw [summaries, lifecycle?_self hd hmem]

theorem summaries_put (hd : s.Distinct) (hmem : life ∈ s.lifecycles)
    (hname : new.name = life.name) :
    (s.put new).summaries = Function.update s.summaries life.name new.summaries := by
  have hd' := hd.put hmem hname
  rw [Function.eq_update_iff]
  refine ⟨hname ▸ summaries_self hd' (mem_put_self hd hmem hname), fun p hp => ?_⟩
  -- Another process is found before and after, or neither.
  have hsame : (s.put new).lifecycle? p = s.lifecycle? p := by
    ext other
    rw [lifecycle?_eq_some hd', lifecycle?_eq_some hd, mem_put hd hmem hname]
    constructor
    · rintro ⟨rfl | ⟨hother, _⟩, rfl⟩
      · exact absurd hname hp
      · exact ⟨hother, rfl⟩
    · rintro ⟨hother, rfl⟩
      exact ⟨Or.inr ⟨hother, fun heq => hp (by rw [heq])⟩, rfl⟩
  rw [summaries, summaries, hsame]

end Schedule

open Schedule

/-- The transitions of a change lead from one ledger to the next. -/
theorem Effect.replay {op : Operation} {s t : Schedule} {step : Step}
    (effect : Effect op s step t) (h : s.Coherent) (ht : t.Coherent)
    (statuses : List StatusEntry) :
    Ledger.replay? ⟨statuses, s.summaries⟩ (step.transitions.map .process) =
      some ⟨statuses, t.summaries⟩ := by
  cases effect with
  | launched life now mem ready lives _ transitions _ =>
    have hname : (life.opened now).name = life.name := rfl
    have hpending := ((isReady_iff _ _).mp ready).1
    have hnext := (h.lifecycles life mem).nextId_of_pending hpending
    have hopened := ht.lifecycles _ (lives ▸ mem_put_self h.distinct mem hname)
    rw [transitions, ← hnext, List.map_singleton, Ledger.replay?_cons,
      Ledger.take?_launch hopened (summaries_self h.distinct mem), summaries_congr lives,
      summaries_put h.distinct mem hname]
    rfl
  | closed life new index report now call mem opened spec runs lives _ transitions _ =>
    have hsummaries : new.summaries = (life.closedRuns report).map (·.summary) := by
      rw [Lifecycle.summaries, runs]
    rw [transitions, List.map_singleton, Ledger.replay?_cons,
      Ledger.take?_closing (h.lifecycles life mem) opened report (summaries_self h.distinct mem),
      summaries_congr lives, summaries_put h.distinct mem (Lifecycle.name_eq_of_spec spec),
      hsummaries]
    rfl
  | retried life index report now call mem opened lives _ transitions _ =>
    have hname : ((life.tolerated report).opened now).name = life.name := rfl
    have hnext := (h.lifecycles life mem).nextId_tolerated report opened
    have hopened := ht.lifecycles _ (lives ▸ mem_put_self h.distinct mem hname)
    have hbetween : (Ledger.withRuns ⟨statuses, s.summaries⟩ life.name
        ((life.closedRuns report).map (·.summary))).runs (life.tolerated report).name =
        (life.tolerated report).summaries := Function.update_self _ _ _
    rw [transitions, ← hnext, List.map_cons, List.map_singleton, Ledger.replay?_cons,
      Ledger.take?_closing (h.lifecycles life mem) opened report (summaries_self h.distinct mem),
      Option.bind_some, Ledger.replay?_cons, Ledger.take?_launch hopened hbetween,
      summaries_congr lives, summaries_put h.distinct mem hname]
    simp [Ledger.withRuns, Lifecycle.name]
  | none lives _ transitions _ =>
    rw [transitions, summaries_congr lives]
    rfl

theorem Changes.replay {op : Operation} {s t : Schedule} {step : Step}
    (changes : Changes op s step t) (h : s.Sound) (statuses : List StatusEntry) :
    Ledger.replay? ⟨statuses, s.summaries⟩ (step.transitions.map .process) =
      some ⟨statuses, t.summaries⟩ := by
  induction changes with
  | none s => rfl
  | more change _ ih =>
    have hnext := change.sound h
    rw [Step.andThen_transitions, List.map_append, Ledger.replay?_append,
      (change.effect h.coherent).replay h.coherent hnext.coherent statuses, Option.bind_some]
    exact ih hnext

/-! ## Records -/

namespace Schedule

variable {s : Schedule}

theorem lookup_records (h : s.Coherent) {p : ProcessName} {runs : List Run} :
    s.records.lookup p = some runs ↔ (p, runs) ∈ s.records := by
  have hfound : ∀ {found}, s.records.lookup p = some found → (p, found) ∈ s.records := by
    intro found hlookup
    obtain ⟨front, rest, hsplit, _⟩ := List.lookup_eq_some_iff.mp hlookup
    rw [hsplit]
    exact List.mem_append_right _ List.mem_cons_self
  refine ⟨hfound, fun hmem => ?_⟩
  have hsome : (s.records.lookup p).isSome = true :=
    List.lookup_isSome_iff.mpr ⟨(p, runs), hmem, by simp⟩
  obtain ⟨found, hlookup⟩ := Option.isSome_iff_exists.mp hsome
  -- The names are distinct, so this is the only record of the process.
  obtain ⟨life, hlife, _, hname, rfl⟩ := mem_records.mp hmem
  obtain ⟨other, hother, _, hname', rfl⟩ := mem_records.mp (hfound hlookup)
  rw [hlookup, h.distinct.eq_of_name hother hlife (hname'.trans hname.symm)]

/-- The records tell of the runs of a process what its lifecycle does. -/
theorem summaries_of_records (h : s.Coherent) (p : ProcessName) :
    ((s.records.lookup p).getD []).map (·.summary) = s.summaries p := by
  cases hlookup : s.records.lookup p with
  | some runs =>
    obtain ⟨life, hmem, _, rfl, rfl⟩ := mem_records.mp ((lookup_records h).mp hlookup)
    exact (summaries_self h.distinct hmem).symm
  | none =>
    unfold summaries
    cases hfind : s.lifecycle? p with
    | none => rfl
    | some life =>
      obtain ⟨hmem, hname⟩ := (lifecycle?_eq_some h.distinct).mp hfind
      -- A process without a record has no runs.
      have hnil : life.runs = [] := by
        by_contra hne
        have hrecord := (lookup_records h).mpr (mem_records.mpr ⟨life, hmem, hne, hname, rfl⟩)
        rw [hlookup] at hrecord
        cases hrecord
      simp [Lifecycle.summaries, hnil]

theorem initial_summaries (task : TaskSpec) (options : SchedulerOptions) (p : ProcessName) :
    (initial task options).summaries p = [] := by
  unfold summaries
  split
  · next life hfind =>
    have hruns := (initial_pending (List.mem_of_find?_eq_some hfind)).2.1
    rw [Lifecycle.summaries, hruns, List.map_nil]
  · rfl

/-- The processes with a record are those that the events tell some run of. -/
theorem recorded_iff (h : s.Coherent) {p : ProcessName} :
    p ∈ s.records.map (·.1) ↔ s.summaries p ≠ [] := by
  constructor
  · intro hp
    obtain ⟨⟨p, runs⟩, hrecord, rfl⟩ := List.mem_map.mp hp
    obtain ⟨life, hmem, hne, rfl, rfl⟩ := mem_records.mp hrecord
    rw [summaries_self h.distinct hmem]
    exact fun hnil => hne (List.map_eq_nil_iff.mp hnil)
  · intro hne
    cases hfind : s.lifecycle? p with
    | none => exact absurd (by rw [summaries, hfind]) hne
    | some life =>
      obtain ⟨hmem, rfl⟩ := (lifecycle?_eq_some h.distinct).mp hfind
      rw [summaries_self h.distinct hmem] at hne
      have hruns : life.runs ≠ [] := fun hnil => hne (List.map_eq_nil_iff.mpr hnil)
      exact List.mem_map_of_mem (f := (·.1)) (mem_records.mpr ⟨life, hmem, hruns, rfl, rfl⟩)

end Schedule

end Overseer
