import Overseer.Proofs.Schedule.Operations

/-!
# Nothing is passed over

A launch passes over a process that it does not find or that refuses, it announces an attempt
under a number that it is given, and numbers are words that may wrap around. The strict
operations are the same ones with a `Fault` in all of these places. On a schedule that a run
can reach they never fault, and do what the plain ones do: no retry is lost in silence, every
attempt is announced under the number of its run, and no number is cut off.

The counts of the failure budget are another matter: they may wrap around where the processes
of a task may together fail more often than a word can say.

Results:
1. `Lifecycle.Coherent.launchStrictly_eq_ok`, `Lifecycle.Coherent.completeStrictly_eq`: one process.
2. `Coherent.launchable_ready`, `Coherent.launchable_retry`: what is launched can be launched;
   `advanceStrictly_eq`, `settleStrictly_eq`: the parts of a step.
3. `applyStrictly_eq`, `Reachable.faultless`: every operation.
-/

namespace Overseer

/-! ## Faults -/

/-- What an operation would pass over in silence. -/
inductive Fault
  /-- There is no lifecycle of that name, or no such process was declared. -/
  | unknown (process : ProcessName)
  | refused (cause : TransitionError)
  /-- The run that was opened has another number than the one announced. -/
  | misnumbered (opened : AttemptId) (announced : UInt32)
  | overflow (number : Nat)
  deriving DecidableEq

/-- The word for a number that fits into one. -/
def Fault.word (number : Nat) : Except Fault UInt32 :=
  if number < 2 ^ 32 then .ok (UInt32.ofNat number) else .error (.overflow number)

/-! ## Strict operations -/

namespace Lifecycle

/-- `launch`, where no refusal is expected. -/
def launchStrictly (life : Lifecycle) (now : Instant) : Except Fault (Lifecycle × Transition) :=
  if life.state.isTerminal then .error (.refused (.alreadyTerminal life.name life.state))
  else
    match life.openAttempt? with
    | some attempt => .error (.refused (.attemptInFlight life.name attempt))
    | none => do
      let index ← Fault.word life.runs.length
      let id : AttemptId := ⟨life.name, index⟩
      return ({ life with runs := life.runs ++ [Run.launched id now], state := .running },
        Transition.launch id now)

/-- `complete`. A completion that fits no open run is refused as ever. -/
def completeStrictly (life : Lifecycle) (index : UInt32) (report : Report)
    (policy : MinDurationPolicy) :
    Except Fault (Lifecycle × Except TransitionError (Transition × Verdict)) :=
  match life.closeRun index report with
  | (unclosed, .error refusal) => return (unclosed, .error refusal)
  | (closed, .ok transition) =>
    if report.outcome.isSuccess then
      return ({ closed with state := .success }, .ok (transition, .succeeded))
    else do
      let failures ← Fault.word (closed.failures.toNat + 1)
      let counted := { closed with failures }
      if counted.failureLimit ≤ counted.failures then
        return ({ counted with state := .failed }, .ok (transition, .permanentlyFailed))
      else
        let next ← Fault.word (index.toNat + 1)
        return (counted, .ok (transition, .retry next (counted.restartDelay report policy)))

end Lifecycle

namespace Schedule

/-- `launch` of a process that is declared and can be launched under the given number. -/
def launchStrictly (schedule : Schedule) (now : Instant) (index : UInt32) (restartDelay : Span)
    (process : ProcessName) : Except Fault (Schedule × Step) :=
  match schedule.lifecycle? process, schedule.task.process? process with
  | some life, some spec => do
    let (launched, transition) ← life.launchStrictly now
    if transition.id.index = index then
      return (schedule.put launched,
        { launched := [Attempt.ofSpec spec index restartDelay]
          transitions := [transition] })
    else throw (.misnumbered transition.id index)
  | _, _ => .error (.unknown process)

def launchWhileFreeStrictly (schedule : Schedule) (now : Instant) (running : Nat) :
    List ProcessName → Except Fault (Schedule × Step)
  | [] => return (schedule, {})
  | process :: rest =>
    if schedule.isFull running then return (schedule, {})
    else do
      let (launched, step) ← schedule.launchStrictly now 0 .zero process
      let (final, more) ←
        launched.launchWhileFreeStrictly now (running + step.launched.length) rest
      return (final, step.andThen more)

def advanceStrictly (schedule : Schedule) (now : Instant) : Except Fault (Schedule × Step) := do
  let (launched, step) ←
    schedule.launchWhileFreeStrictly now schedule.runningCount schedule.readyNames
  let (final, conclusion) := launched.concludeSettled
  return (final, step.andThen conclusion)

/-- `settle`. Where the task is decided, nothing is counted up or launched. -/
def settleStrictly (schedule : Schedule) (process : ProcessName) (verdict : Verdict)
    (now : Instant) : Except Fault (Schedule × Step) :=
  match verdict with
  | .succeeded =>
    advanceStrictly
      { schedule with
        progress := schedule.progress.recordSuccess schedule.task.precedence process }
      now
  | .retry nextAttempt restartDelay =>
    let counted := { schedule with budget := schedule.budget.record false }
    if counted.budget.exceeded then return schedule.settle process verdict now
    else do
      let (relaunched, step) ← counted.launchStrictly now nextAttempt restartDelay process
      let (final, more) ← relaunched.advanceStrictly now
      return (final, step.andThen more)
  | .permanentlyFailed =>
    let (progress, newlyBlocked) :=
      schedule.progress.recordFailure schedule.task.precedence process
    let counted := { schedule with progress, budget := schedule.budget.record true }
    if schedule.task.precedence.isPredecessor process || counted.budget.exceeded then
      return schedule.settle process verdict now
    else do
      let (final, step) ← counted.advanceStrictly now
      return (final, { step with newlyBlocked })

/-- `complete`. After the decision, too, nothing is counted up or launched. -/
def completeStrictly (schedule : Schedule) (id : AttemptId) (report : Report) (now : Instant) :
    Except Fault (Schedule × Step) :=
  if schedule.isDecided then return schedule.complete id report now
  else
    match schedule.lifecycle? id.process with
    | none => return (schedule, {})
    | some life => do
      match ← life.completeStrictly id.index report schedule.options.minDuration with
      | (unclosed, .error _) => return (schedule.put unclosed, {})
      | (closed, .ok (transition, verdict)) =>
        let (final, step) ← (schedule.put closed).settleStrictly id.process verdict now
        return (final, { step with transitions := transition :: step.transitions })

def applyStrictly (schedule : Schedule) : Operation → Except Fault (Schedule × Step)
  | .start now => if schedule.isDecided then return (schedule, {}) else schedule.advanceStrictly now
  | .complete id report now => schedule.completeStrictly id report now
  | .cancel => return schedule.cancel

end Schedule

/-! ## One process -/

theorem Fault.word_eq_ok {number : Nat} (h : number < 2 ^ 32) :
    word number = .ok (UInt32.ofNat number) := if_pos h

/-- A word that may be counted up is counted up exactly. -/
theorem Fault.word_succ {word : UInt32} (h : (word + 1).toNat = word.toNat + 1) :
    Fault.word (word.toNat + 1) = .ok (word + 1) := by
  rw [word_eq_ok (h ▸ UInt32.toNat_lt _), ← h, UInt32.ofNat_toNat]

namespace Lifecycle.Coherent

variable {life : Lifecycle} {index : UInt32}

/-- The runs of a process are fewer than a word can say. -/
theorem length_lt (h : life.Coherent) : life.runs.length < 2 ^ 32 :=
  Nat.lt_of_le_of_lt h.length_le life.limit_lt

theorem launchStrictly_eq_ok (h : life.Coherent) (now : Instant)
    (hlive : life.state.isTerminal = false) (hidle : life.openAttempt? = none) :
    life.launchStrictly now = .ok (life.opened now, Transition.launch life.nextId now) := by
  simp only [launchStrictly, hlive, Bool.false_eq_true, if_false, hidle,
    Fault.word_eq_ok h.length_lt]
  rfl

theorem completeStrictly_eq (h : life.Coherent) (index : UInt32) (report : Report)
    (policy : MinDurationPolicy) :
    life.completeStrictly index report policy = .ok (life.complete index report policy) := by
  by_cases hopen : life.openAttempt? = some index
  · have hfailures := Fault.word_succ (h.failures_succ hopen)
    have hnext := Fault.word_succ (h.next_toNat hopen)
    simp only [completeStrictly, complete, closeRun_eq_ok report hopen, hfailures, hnext]
    split
    · rfl
    · simp only [bind, Except.bind]
      split <;> rfl
  · obtain ⟨refusal, hrefused⟩ := closeRun_refused report hopen
    simp only [completeStrictly, complete, hrefused]
    rfl

end Lifecycle.Coherent

/-- The numbers of a process say what they count: its runs can be counted by a word and are
numbered from zero, and where the attempt in flight ends, the failures and the number of the
next attempt are counted up without wrapping around. -/
structure Lifecycle.Exact (life : Lifecycle) : Prop where
  length : life.runs.length < 2 ^ 32
  indices : life.runs.map (·.id.index.toNat) = List.range life.runs.length
  failures : ∀ index, life.openAttempt? = some index →
    (life.failures + 1).toNat = life.failures.toNat + 1
  next : ∀ index, life.openAttempt? = some index → (index + 1).toNat = index.toNat + 1

theorem Lifecycle.Coherent.exact {life : Lifecycle} (h : life.Coherent) : life.Exact where
  length := h.length_lt
  indices := h.indices
  failures _ hopen := h.failures_succ hopen
  next _ hopen := h.next_toNat hopen

/-! ## One step -/

namespace Schedule

variable {s : Schedule} {life : Lifecycle} {index : UInt32} {report : Report} {now : Instant}

/-- A process is declared exactly if it has a lifecycle, which keeps the declaration. -/
theorem Coherent.process?_eq (h : s.Coherent) (p : ProcessName) :
    s.task.process? p = (s.lifecycle? p).map (·.spec) := by
  rw [TaskSpec.process?, ← h.specs, List.find?_map]
  rfl

/-- `life` is the lifecycle of a process that can be launched, and its next attempt has the
given number. -/
structure Launchable (schedule : Schedule) (life : Lifecycle) (index : UInt32) : Prop where
  mem : life ∈ schedule.lifecycles
  live : life.state.isTerminal = false
  idle : life.openAttempt? = none
  number : life.nextId.index = index

/-- A ready process is launched for the first time. -/
theorem Coherent.launchable_ready (h : s.Coherent) (hmem : life ∈ s.lifecycles)
    (hready : s.isReady life = true) : s.Launchable life 0 := by
  have hlife := h.lifecycles life hmem
  have hpending := ((isReady_iff s life).mp hready).1
  exact ⟨hmem, by rw [hpending]; rfl, hlife.idle_of_pending hpending,
    by rw [hlife.nextId_of_pending hpending]⟩

/-- A process that is to be retried is launched under the number after the failed attempt. -/
theorem Coherent.launchable_retry (h : s.Coherent) (hmem : life ∈ s.lifecycles)
    (hopen : life.openAttempt? = some index) (report : Report) :
    (s.noteRetry life report).Launchable (life.tolerated report) (index + 1) := by
  have hlife := h.lifecycles life hmem
  have hname : (life.tolerated report).name = life.name := rfl
  refine ⟨mem_put_self h.distinct hmem hname, ?_, hlife.openAttempt?_of_closed hopen rfl, ?_⟩
  · rw [Lifecycle.tolerated_state, hlife.running_of_openAttempt? hopen]
    rfl
  · rw [hlife.nextId_tolerated report hopen]

theorem Launchable.launchStrictly_eq (hl : s.Launchable life index) (h : s.Coherent)
    (now : Instant) (delay : Span) :
    s.launchStrictly now index delay life.name = .ok (s.launch now index delay life.name) := by
  have hfound := lifecycle?_self h.distinct hl.mem
  have hopened := (h.lifecycles life hl.mem).launchStrictly_eq_ok now hl.live hl.idle
  rw [launch_eq h.distinct hl.mem hl.live hl.idle]
  simp only [launchStrictly, h.process?_eq, hfound, Option.map_some, hopened]
  exact if_pos hl.number

theorem launchWhileFreeStrictly_eq (now : Instant) {names : List ProcessName} (h : s.Sound)
    (undecided : s.decision = none) (hnames : s.readyNames = names) :
    s.launchWhileFreeStrictly now s.runningCount names =
      .ok (s.launchWhileFree now s.runningCount names) := by
  -- Each launch leaves the other ready processes, and one slot fewer.
  induction names generalizing s with
  | nil => rfl
  | cons p more ih =>
    cases hfull : s.isFull s.runningCount with
    | true =>
      rw [launchWhileFreeStrictly, launchWhileFree, if_pos hfull, if_pos hfull]
      rfl
    | false =>
      obtain ⟨life, hmem, rfl, hready, hlaunch, change, hmore, hcount⟩ :=
        launch_ready h undecided hnames hfull now
      have hstrict :=
        (h.coherent.launchable_ready hmem hready).launchStrictly_eq h.coherent now .zero
      have hrest := ih (change.sound h) undecided hmore
      rw [hlaunch] at hstrict
      rw [hcount] at hrest
      simp only [launchWhileFreeStrictly, launchWhileFree, hfull, Bool.false_eq_true, if_false,
        hstrict, hlaunch, bind, Except.bind, List.length_singleton, hrest]
      rfl

theorem advanceStrictly_eq (h : s.Sound) (undecided : s.decision = none) (now : Instant) :
    s.advanceStrictly now = .ok (s.advance now) := by
  rw [advanceStrictly, launchWhileFreeStrictly_eq now h undecided rfl]
  rfl

/-- A retry within the budget launches the process again and goes on. -/
theorem settleStrictly_within (hwithin : (s.budget.record false).exceeded = false)
    (process : ProcessName) (now : Instant) (delay : Span) :
    (s.put (life.tolerated report)).settleStrictly process (.retry (index + 1) delay) now =
      (s.noteRetry life report).launchStrictly now (index + 1) delay process >>= fun relaunch =>
        relaunch.1.advanceStrictly now >>= fun more =>
          pure (more.1, relaunch.2.andThen more.2) := by
  have hbudget : ¬ (s.noteRetry life report).budget.exceeded = true := by simp [hwithin]
  exact if_neg hbudget

section Settling

variable (h : s.Sound) (hmem : life ∈ s.lifecycles) (hopen : life.openAttempt? = some index)
  (undecided : s.decision = none) (now : Instant)
include h hmem hopen undecided

theorem settleStrictly_succeeded (hsuccess : report.outcome.isSuccess = true) :
    (s.put (life.succeeded report)).settleStrictly life.name .succeeded now =
      .ok ((s.put (life.succeeded report)).settle life.name .succeeded now) := by
  have change : Change (.complete ⟨life.name, index⟩ report now) s _ (s.noteSuccess life report) :=
    .succeed rfl undecided hmem hopen hsuccess
  exact advanceStrictly_eq (change.sound h) undecided now

/-- A retry is launched under the number that was announced for it. -/
theorem settleStrictly_retry (hfailure : report.outcome.isSuccess = false)
    (hleft : life.failures + 1 < life.failureLimit) (delay : Span) :
    (s.put (life.tolerated report)).settleStrictly life.name (.retry (index + 1) delay) now =
      .ok ((s.put (life.tolerated report)).settle life.name (.retry (index + 1) delay) now) := by
  cases hbudget : (s.budget.record false).exceeded with
  | true => exact if_pos hbudget
  | false =>
    have hnoted := h.coherent.noteRetry hmem hopen hfailure hleft
    have hl := h.coherent.launchable_retry hmem hopen report
    have hstrict := hl.launchStrictly_eq hnoted now delay
    have hlaunch := launch_eq hnoted.distinct hl.mem hl.live hl.idle now (index + 1) delay
    rw [Lifecycle.name_eq_of_spec (life.tolerated_spec report)] at hstrict hlaunch
    have change : Change (.complete ⟨life.name, index⟩ report now) s _
        ((s.noteRetry life report).put ((life.tolerated report).opened now)) :=
      .retry rfl undecided hmem hopen hfailure hleft hbudget
    rw [settleStrictly_within hbudget, hstrict, settle_retry hbudget, hlaunch]
    change advanceStrictly _ now >>= _ = _
    rw [advanceStrictly_eq (change.sound h) undecided now]
    rfl

theorem settleStrictly_permanentlyFailed (hfailure : report.outcome.isSuccess = false)
    (hlast : life.failureLimit ≤ life.failures + 1) :
    (s.put (life.givenUp report)).settleStrictly life.name .permanentlyFailed now =
      .ok ((s.put (life.givenUp report)).settle life.name .permanentlyFailed now) := by
  by_cases hdecides :
      (s.task.precedence.isPredecessor life.name || (s.budget.record true).exceeded) = true
  · exact if_pos hdecides
  · obtain ⟨hleaf, hwithin⟩ : s.task.precedence.isPredecessor life.name = false ∧
        (s.budget.record true).exceeded = false := by simpa using hdecides
    have change : Change (.complete ⟨life.name, index⟩ report now) s _
        (s.noteFailure life report) :=
      .tolerate rfl undecided hmem hopen hfailure hlast hleaf hwithin
    refine (if_neg hdecides).trans ?_
    change advanceStrictly (s.noteFailure life report) now >>= _ = _
    rw [advanceStrictly_eq (change.sound h) undecided now, settle_tolerate hleaf hwithin]
    rfl

end Settling

/-- Whatever a completion comes to is followed up without a fault. -/
theorem settleStrictly_eq {closed : Lifecycle} {transition : Transition} {verdict : Verdict}
    {policy : MinDurationPolicy} (h : s.Sound) (hmem : life ∈ s.lifecycles)
    (undecided : s.decision = none) (now : Instant)
    (hcomplete : life.complete index report policy = (closed, .ok (transition, verdict))) :
    (s.put closed).settleStrictly life.name verdict now =
      .ok ((s.put closed).settle life.name verdict now) := by
  have hopen : life.openAttempt? = some index := by
    by_contra hclosed
    obtain ⟨refusal, hrefused⟩ := Lifecycle.complete_refused report policy hclosed
    cases hrefused.symm.trans hcomplete
  cases hout : report.outcome.isSuccess with
  | true =>
    rw [Lifecycle.complete_eq_ok_of_success policy hopen hout] at hcomplete
    cases hcomplete
    exact settleStrictly_succeeded h hmem hopen undecided now hout
  | false =>
    by_cases hleft : life.failures + 1 < life.failureLimit
    · rw [Lifecycle.complete_eq_ok_of_retry policy hopen hout hleft] at hcomplete
      cases hcomplete
      exact settleStrictly_retry h hmem hopen undecided now hout hleft _
    · have hlast := UInt32.not_lt.mp hleft
      rw [Lifecycle.complete_eq_ok_of_last policy hopen hout hlast] at hcomplete
      cases hcomplete
      exact settleStrictly_permanentlyFailed h hmem hopen undecided now hout hlast

/-! ## Every operation -/

theorem completeStrictly_eq (h : s.Sound) (id : AttemptId) (report : Report) (now : Instant) :
    s.completeStrictly id report now = .ok (s.complete id report now) := by
  by_cases decided : s.isDecided = true
  · exact if_pos decided
  have undecided : s.decision = none := by simpa [isDecided] using decided
  rw [completeStrictly, if_neg decided]
  cases hfound : s.lifecycle? id.process with
  | none =>
    simp only [complete, hfound]
    rfl
  | some life =>
    obtain ⟨hmem, hname⟩ := (lifecycle?_eq_some h.coherent.distinct).mp hfound
    have hstrict := (h.coherent.lifecycles life hmem).completeStrictly_eq id.index report
      s.options.minDuration
    rcases hcomplete : life.complete id.index report s.options.minDuration with
      ⟨closed, refusal | ⟨transition, verdict⟩⟩
    · simp only [complete, hfound, if_neg decided, hstrict, hcomplete]
      rfl
    · have hsettle := settleStrictly_eq h hmem undecided now hcomplete
      rw [hname] at hsettle
      simp only [complete, hfound, if_neg decided, hstrict, hcomplete, hsettle, bind, Except.bind]
      rfl

theorem applyStrictly_eq (h : s.Sound) (op : Operation) :
    s.applyStrictly op = .ok (s.apply op) := by
  cases op with
  | start now =>
    by_cases decided : s.isDecided = true
    · rw [applyStrictly, apply, start, if_pos decided, if_pos decided]
      rfl
    · have undecided : s.decision = none := by simpa [isDecided] using decided
      rw [applyStrictly, if_neg decided, apply_start undecided]
      exact advanceStrictly_eq h undecided now
  | complete id report now => exact completeStrictly_eq h id report now
  | cancel => rfl

/-! ## Runs -/

variable {task : TaskSpec} {options : SchedulerOptions}

/-- On the schedules that the runs of a task can reach, no operation passes over anything:
each process that it launches is found, declared and ready to be launched, and opens its run
under the number that was announced. Every declared process is found under its name, and its
numbers are exact, however often it may fail. -/
theorem Reachable.faultless (h : Reachable task options s) (op : Operation) :
    s.applyStrictly op = .ok (s.apply op) ∧
    ∀ spec ∈ task.processes, task.process? spec.name = some spec ∧
      ∃ life, s.lifecycle? spec.name = some life ∧ life.spec = spec ∧ life.Exact := by
  have hsound := h.sound
  refine ⟨applyStrictly_eq hsound op, ?_⟩
  rw [← h.task_eq, ← hsound.coherent.specs]
  intro spec hspec
  obtain ⟨life, hmem, rfl⟩ := List.mem_map.mp hspec
  have hfound : s.lifecycle? life.spec.name = some life :=
    lifecycle?_self hsound.coherent.distinct hmem
  refine ⟨?_, life, hfound, rfl, (hsound.coherent.lifecycles life hmem).exact⟩
  rw [hsound.coherent.process?_eq, hfound, Option.map_some]

end Schedule

/-- `first` may fail as often as a word can say. -/
def TaskDraft.tireless : TaskDraft :=
  { unordered with
    processes := [⟨"first", "true", 4294967295, .zero⟩, ⟨"second", "true", 1, .zero⟩] }

def TaskSpec.tireless : TaskSpec where
  toTaskDraft := .tireless
  precedence := unordered.precedence
  checked := TaskDraft.check_unordered

namespace Schedule

/-- `first` fails for the first time and is launched again. -/
theorem Reachable.faultless_tireless :
    let s := (initial .tireless {}).after [.start ⟨0⟩]
    let op : Operation := .complete ⟨"first", 0⟩ ⟨.failure 1, ⟨0⟩, ⟨9⟩⟩ ⟨9⟩
    Reachable .tireless {} s ∧ s.applyStrictly op = .ok (s.apply op) ∧
      (s.apply op).2.launched.map (·.id) = [⟨"first", 1⟩] ∧
      ∃ life, s.lifecycle? "first" = some life ∧ life.failureLimit = 4294967295 ∧ life.Exact := by
  intro s op
  have hs : Reachable .tireless {} s := ⟨_, rfl⟩
  obtain ⟨hstrict, hfound⟩ := hs.faultless op
  obtain ⟨_, life, hlife, hspec, hexact⟩ := hfound ⟨"first", "true", 4294967295, .zero⟩
    List.mem_cons_self
  refine ⟨hs, hstrict, by decide, life, hlife, ?_, hexact⟩
  rw [Lifecycle.failureLimit, hspec]
  rfl

/-- A schedule that has lost its lifecycles, which no run can reach, loses the launch as well. -/
example :
    let s : Schedule := { initial .pair {} with lifecycles := [] }
    s.launch ⟨0⟩ 0 .zero "first" = (s, {}) ∧
      s.launchStrictly ⟨0⟩ 0 .zero "first" = .error (.unknown "first") :=
  ⟨rfl, rfl⟩

end Schedule

end Overseer
