import Overseer.Proofs.Schedule.Agreement
import Overseer.Proofs.Schedule.Escalation

/-!
# What a completion decides

The completion of an attempt in flight decides the task by the first of three
conditions that holds: it is the last failure of a process that others wait for, it
is a failure with which more failures count than the task tolerates, or it leaves
no process that has not ended. `Schedule.ruling` states them in terms of the runs
and states of the processes, before and after the completion.

Since the budget of an undecided task is not exceeded, the failure that exceeds it
is the first beyond the limit.

Results:
1. `FailureBudget.count_of_exceeded`: the count at which a budget is exceeded.
2. `Change.cause`, `Change.overdrawn`: what the change that closes the attempt
   decides, and what it says of the budget.
3. `Changes.conclusion`: what the launches after it decide.
4. `Accepted.ruling`, `Accepted.overdrawn`, `Reachable.decision_rule`: both together.
-/

namespace Overseer

instance (task : TaskSpec) (p : ProcessName) : Decidable (task.HasDependents p) :=
  decidable_of_iff (task.precedence.isPredecessor p = true) task.isPredecessor_iff

theorem TaskSpec.not_hasDependents {task : TaskSpec} {p : ProcessName}
    (leaf : task.precedence.isPredecessor p = false) : ¬ task.HasDependents p := by
  rw [← task.isPredecessor_iff, leaf]
  exact Bool.false_ne_true

namespace Schedule

/-! ## The rule -/

/-- The report on an attempt is the last failure that its process may have. -/
def Exhausts (schedule : Schedule) (id : AttemptId) (report : Report) : Prop :=
  report.outcome.isSuccess = false ∧ ∃ life ∈ schedule.lifecycles, life.name = id.process ∧
    life.runs.countP (·.state = .failed) + 1 = life.spec.maxFailures.toNat

/-- The failures that count: processes that failed for good, or failed runs. -/
def charged (schedule : Schedule) : FailureCounting → Nat
  | .processes => schedule.failedCount
  | .attempts => schedule.recordedFailures

/-- More failures count than the task tolerates. -/
def Overdrawn (schedule : Schedule) : Prop :=
  schedule.task.maxFailures ≠ 0 ∧
    schedule.task.maxFailures.toNat < schedule.charged schedule.options.counting

instance (schedule : Schedule) (id : AttemptId) (report : Report) :
    Decidable (schedule.Exhausts id report) := inferInstanceAs (Decidable (_ ∧ _))

instance (schedule : Schedule) : Decidable schedule.Overdrawn :=
  inferInstanceAs (Decidable (_ ∧ _))

/-- The reason for failure that a completion gives, if it leads from `s` to `t`. -/
def cause? (s t : Schedule) (id : AttemptId) (report : Report) : Option FailureReason :=
  if s.Exhausts id report ∧ s.task.HasDependents id.process then
    some (.dependencyFailed id.process)
  else if report.outcome.isSuccess = false ∧ t.Overdrawn then
    some (.budgetExceeded id.process (s.task.maxFailures + 1) s.task.maxFailures)
  else none

/-- The decision that a completion makes, if it leads from `s` to `t`. -/
def ruling (s t : Schedule) (id : AttemptId) (report : Report) : Option Decision :=
  match s.cause? t id report with
  | some reason => some (.failed reason)
  | none => if t.Settled then some .success else none

end Schedule

/-! ## Counts -/

/-- Before the last failure one is left. -/
theorem Lifecycle.Coherent.last_iff {life : Lifecycle} (h : life.Coherent) {index : UInt32}
    (hopen : life.openAttempt? = some index) :
    life.failureLimit ≤ life.failures + 1 ↔
      life.runs.countP (·.state = .failed) + 1 = life.limit := by
  obtain ⟨earlier, last, hflight⟩ := h.inFlight hopen
  have hfailed := h.failed_runs fun hstate => absurd hstate (h.live_of_openAttempt? hopen)
  have hbelow : life.failures.toNat < life.limit := hflight.failures ▸ hflight.below
  rw [UInt32.le_iff_toNat_le, h.failures_succ hopen, hfailed]
  exact ⟨fun hle => Nat.le_antisymm hbelow hle, fun heq => heq.ge⟩

/-- The failure that exceeds a budget is the first beyond its limit. -/
theorem FailureBudget.count_of_exceeded {budget : FailureBudget} {terminal : Bool}
    (within : budget.exceeded = false) (exceeded : (budget.record terminal).exceeded = true) :
    (budget.record terminal).count = budget.limit + 1 ∧
      (budget.limit + 1).toNat = budget.limit.toNat + 1 ∧
      (budget.counting = .processes → terminal = true) := by
  have hlimit : (budget.record terminal).limit = budget.limit := rfl
  simp only [FailureBudget.exceeded, hlimit, ne_eq, decide_not, Bool.and_eq_true,
    Bool.not_eq_true', decide_eq_false_iff_not, decide_eq_true_eq, Bool.and_eq_false_iff,
    Bool.not_eq_false'] at within exceeded
  obtain ⟨hlimited, hover⟩ := exceeded
  have hbelow : ¬ budget.limit < budget.count := within.resolve_left hlimited
  -- One failure adds nothing to the count, or one.
  have hcount : (budget.record terminal).count = budget.count ∨
      (budget.record terminal).count = budget.count + 1 ∧
        (budget.counting = .processes → terminal = true) := by
    cases hcounting : budget.counting <;> cases terminal <;>
      simp [FailureBudget.count, FailureBudget.record, hcounting]
  rcases hcount with hsame | ⟨hmore, hterminal⟩
  · exact absurd (hsame ▸ hover) hbelow
  · rw [hmore, UInt32.lt_iff_toNat_lt, UInt32.toNat_add] at hover
    rw [UInt32.not_lt, UInt32.le_iff_toNat_le] at hbelow
    have hequal : budget.count = budget.limit := by
      refine UInt32.toNat_inj.mp (Nat.le_antisymm hbelow ?_)
      have hle := Nat.mod_le (budget.count.toNat + (1 : UInt32).toNat) (2 ^ 32)
      have hone : (1 : UInt32).toNat = 1 := rfl
      omega
    refine ⟨by rw [hmore, hequal], ?_, hterminal⟩
    rw [UInt32.toNat_add]
    rw [hequal] at hover
    have hlt := budget.limit.toNat_lt
    have hone : (1 : UInt32).toNat = 1 := rfl
    omega

namespace Schedule

variable {s t : Schedule} {life : Lifecycle} {index : UInt32} {report : Report}

theorem Coherent.exhausts_iff (h : s.Coherent) (hmem : life ∈ s.lifecycles)
    (hopen : life.openAttempt? = some index) (report : Report) :
    s.Exhausts ⟨life.name, index⟩ report ↔
      report.outcome.isSuccess = false ∧ life.failureLimit ≤ life.failures + 1 := by
  rw [(h.lifecycles life hmem).last_iff hopen, h.limit_eq hmem, Exhausts]
  refine and_congr_right fun _ => ⟨?_, fun hlast => ⟨life, hmem, rfl, hlast⟩⟩
  rintro ⟨other, hother, hname, hlast⟩
  rwa [h.distinct.eq_of_name hother hmem hname] at hlast

theorem Coherent.not_exhausts (h : s.Coherent) (hmem : life ∈ s.lifecycles)
    (hopen : life.openAttempt? = some index) (left : life.failures + 1 < life.failureLimit)
    (report : Report) : ¬ s.Exhausts ⟨life.name, index⟩ report := by
  rw [h.exhausts_iff hmem hopen report]
  exact fun hlast => UInt32.not_le.mpr left hlast.2

theorem Accounted.budget_limit (ha : s.Accounted) : s.budget.limit = s.task.maxFailures := by
  rw [ha.budget, tally]

theorem Accounted.budget_counting (ha : s.Accounted) :
    s.budget.counting = s.options.counting := by
  rw [ha.budget, tally]

/-- The figure that the budget compares with its limit is the number of failures
that count. -/
theorem count_eq_charged (h : s.Coherent) (ha : s.Accounted) (fits : s.task.allowance < 2 ^ 32) :
    s.budget.count.toNat = s.charged s.options.counting := by
  rw [ha.budget]
  cases hcounting : s.options.counting with
  | processes =>
    simp only [FailureBudget.count, tally, hcounting, charged]
    exact UInt32.toNat_ofNat_of_lt' (Nat.lt_of_le_of_lt (failedCount_le h) fits)
  | attempts =>
    simp only [FailureBudget.count, tally, hcounting, charged, recordedFailures_eq h ha]
    exact UInt32.toNat_ofNat_of_lt' (Nat.lt_of_le_of_lt (failureSum_le h ha) fits)

theorem overdrawn_iff (h : s.Coherent) (ha : s.Accounted) (fits : s.task.allowance < 2 ^ 32) :
    s.Overdrawn ↔ s.budget.exceeded = true := by
  rw [Overdrawn, ← count_eq_charged h ha fits, ← UInt32.lt_iff_toNat_lt, ← ha.budget_limit]
  simp [FailureBudget.exceeded]

/-! ## Causes -/

theorem cause?_fatal {id : AttemptId} (hexhausts : s.Exhausts id report)
    (hwaited : s.task.HasDependents id.process) :
    s.cause? t id report = some (.dependencyFailed id.process) :=
  if_pos ⟨hexhausts, hwaited⟩

theorem cause?_overdrawn {id : AttemptId}
    (hnot : ¬ (s.Exhausts id report ∧ s.task.HasDependents id.process))
    (hfailure : report.outcome.isSuccess = false) (hover : t.Overdrawn) :
    s.cause? t id report =
      some (.budgetExceeded id.process (s.task.maxFailures + 1) s.task.maxFailures) := by
  rw [cause?, if_neg hnot, if_pos ⟨hfailure, hover⟩]

theorem cause?_none {id : AttemptId}
    (hnot : ¬ (s.Exhausts id report ∧ s.task.HasDependents id.process))
    (hwithin : ¬ (report.outcome.isSuccess = false ∧ t.Overdrawn)) :
    s.cause? t id report = none := by
  rw [cause?, if_neg hnot, if_neg hwithin]

/-- The reason that names an exceeded budget, in numbers. -/
theorem budgetReason_of_exceeded {terminal : Bool} (ha : s.Active)
    (hbudget : t.budget = s.budget.record terminal)
    (exceeded : (s.budget.record terminal).exceeded = true) (p : ProcessName) :
    t.budgetReason p = .budgetExceeded p (s.task.maxFailures + 1) s.task.maxFailures := by
  obtain ⟨hcount, _⟩ := FailureBudget.count_of_exceeded ha.within exceeded
  rw [budgetReason, hbudget, hcount, ← ha.accounted.budget_limit]
  rfl

end Schedule

open Schedule

section Change

variable {s t : Schedule} {id : AttemptId} {report : Report} {now : Instant} {step : Step}

/-- The change that closes an attempt decides the task exactly if it has cause to. -/
theorem Change.cause (change : Change (.complete id report now) s step t) (h : s.Sound)
    (undecided : s.decision = none) (fits : s.task.allowance < 2 ^ 32) {more : List Transition}
    (closes : step.transitions = Transition.closing id report :: more) :
    step.decision = (s.cause? t id report).map .failed := by
  have hactive := h.active undecided
  have hover := overdrawn_iff (change.coherent h.coherent)
    (change.accounted h.coherent hactive.accounted undecided) (change.task ▸ fits)
  cases change with
  | launch => simp [Transition.launch, Transition.closing] at closes
  | conclude => cases closes
  | cancel call => cases call
  | late _ decided => exact absurd undecided decided
  | @succeed life index report now call _ mem opened success =>
    cases call
    have hno : report.outcome.isSuccess ≠ false := by simp [success]
    rw [cause?_none (fun hfatal => hno hfatal.1.1) fun hfailed => hno hfailed.1]
    rfl
  | @retry life index report now call _ mem opened failure left within =>
    cases call
    have hlast := h.coherent.not_exhausts mem opened left report
    rw [cause?_none (fun hfatal => hlast hfatal.1)
      fun hfailed => absurd (hover.mp hfailed.2) (by simp [within])]
    rfl
  | @overrun life index report now call _ mem opened failure left exceeded =>
    cases call
    have hlast := h.coherent.not_exhausts mem opened left report
    rw [cause?_overdrawn (fun hfatal => hlast hfatal.1) failure (hover.mpr exceeded)]
    exact congrArg (some ∘ Decision.failed) (budgetReason_of_exceeded hactive rfl exceeded _)
  | @tolerate life index report now call _ mem opened failure last leaf within =>
    cases call
    have hleaf := TaskSpec.not_hasDependents leaf
    rw [cause?_none (fun hfatal => hleaf hfatal.2)
      fun hfailed => absurd (hover.mp hfailed.2) (by simp [within])]
    rfl
  | @exhaust life index report now call _ mem opened failure last leaf exceeded =>
    cases call
    have hleaf := TaskSpec.not_hasDependents leaf
    rw [cause?_overdrawn (fun hfatal => hleaf hfatal.2) failure (hover.mpr exceeded)]
    exact congrArg (some ∘ Decision.failed) (budgetReason_of_exceeded hactive rfl exceeded _)
  | @fatal life index report now call _ mem opened failure last waited =>
    cases call
    rw [cause?_fatal ((h.coherent.exhausts_iff mem opened report).mpr ⟨failure, last⟩)
      (s.task.isPredecessor_iff.mp waited)]
    rfl

/-- What a decision says of an exceeded budget is true. -/
theorem Change.overdrawn {op : Operation} (change : Change op s step t) (h : s.Sound)
    (undecided : s.decision = none) (fits : s.task.allowance < 2 ^ 32) {p : ProcessName}
    {failures limit : UInt32}
    (hdecision : step.decision = some (.failed (.budgetExceeded p failures limit))) :
    limit = s.task.maxFailures ∧ failures.toNat = limit.toNat + 1 ∧
      t.charged t.options.counting = failures.toNat ∧
      (s.options.counting = .processes →
        t.stateOf? p = some .failed ∧ ¬ s.task.HasDependents p) := by
  have hactive := h.active undecided
  have hc := change.coherent h.coherent
  have hcharged := count_eq_charged hc
    (change.accounted h.coherent hactive.accounted undecided) (change.task ▸ fits)
  have hlimit := hactive.accounted.budget_limit
  cases change with
  | launch | succeed | retry | tolerate | fatal | late | cancel | conclude => cases hdecision
  | @overrun life index report now call _ mem opened failure left exceeded =>
    cases hdecision
    obtain ⟨hcount, hfits, hterminal⟩ := FailureBudget.count_of_exceeded hactive.within exceeded
    refine ⟨hlimit, ?_, hcharged.symm, fun hprocesses => ?_⟩
    · exact (congrArg UInt32.toNat hcount).trans hfits
    · exact absurd (hterminal (hactive.accounted.budget_counting.trans hprocesses)) (by decide)
  | @exhaust life index report now call _ mem opened failure last leaf exceeded =>
    cases hdecision
    obtain ⟨hcount, hfits, _⟩ := FailureBudget.count_of_exceeded hactive.within exceeded
    refine ⟨hlimit, ?_, hcharged.symm, fun _ => ⟨?_, ?_⟩⟩
    · exact (congrArg UInt32.toNat hcount).trans hfits
    · exact (stateOf?_eq_some hc.distinct).mpr
        ⟨life.givenUp report, mem_put_self h.coherent.distinct mem rfl, rfl, rfl⟩
    · exact TaskSpec.not_hasDependents leaf

end Change

/-! ## The launches after it -/

section Launches

variable {s t : Schedule} {now : Instant} {step : Step}

/-- A decided schedule launches nothing. -/
theorem Changes.start_of_decided (launches : Changes (.start now) s step t)
    (decided : s.decision ≠ Option.none) : t = s ∧ step = {} := by
  cases launches with
  | none s => exact ⟨rfl, rfl⟩
  | more change _ =>
    cases change with
    | launch _ undecided | conclude undecided => exact absurd undecided decided
    | succeed call | retry call | overrun call | tolerate call | exhaust call | fatal call
    | late call | cancel call => cases call

/-- Launches count no failures. -/
theorem Changes.start_accounted (launches : Changes (.start now) s step t) (h : s.Sound)
    (ha : s.Accounted) : t.Accounted ∧ t.budget = s.budget := by
  induction launches with
  | none s => exact ⟨ha, rfl⟩
  | more change _ ih =>
    have hnext := change.sound h
    cases change with
    | launch now undecided mem ready room =>
      have launch : Change (.start now) _ _ _ := .launch now undecided mem ready room
      exact ih hnext (launch.accounted h.coherent ha undecided)
    | conclude undecided settled => exact ih hnext (ha.decide _)
    | succeed call | retry call | overrun call | tolerate call | exhaust call | fatal call
    | late call | cancel call => cases call

/-- After the launches the task has succeeded if nothing is left to do, and is
undecided otherwise. -/
theorem Changes.conclusion (launches : Changes (.start now) s step t) (h : s.Sound)
    (undecided : s.decision = Option.none) (busy : t.decision = Option.none → t.Busy) :
    step.decision = if t.Settled then some .success else Option.none := by
  induction launches with
  | none s => rw [if_neg ((busy undecided).not_settled h undecided)]
  | more change launches ih =>
    have hnext := change.sound h
    cases change with
    | launch now _ mem ready room =>
      simpa using ih hnext undecided busy
    | conclude _ settled =>
      obtain ⟨rfl, rfl⟩ := launches.start_of_decided (by simp)
      have hsettled := (h.active undecided).settled settled
      exact (if_pos hsettled).symm
    | succeed call | retry call | overrun call | tolerate call | exhaust call | fatal call
    | late call | cancel call => cases call

/-- Launches neither make nor cure an excess. -/
theorem Changes.start_overdrawn (launches : Changes (.start now) s step t) (h : s.Sound)
    (undecided : s.decision = Option.none) (fits : s.task.allowance < 2 ^ 32) :
    t.Overdrawn ↔ s.Overdrawn := by
  have haccounted := (h.active undecided).accounted
  obtain ⟨haccounted', hbudget⟩ := launches.start_accounted h haccounted
  rw [overdrawn_iff (launches.sound h).coherent haccounted' (launches.task ▸ fits),
    overdrawn_iff h.coherent haccounted fits, hbudget]

end Launches

/-! ## Completions -/

namespace Schedule

variable {s : Schedule} {task : TaskSpec} {options : SchedulerOptions} {id : AttemptId}
  {report : Report} {now : Instant} {result : Schedule × Step}

theorem cause?_congr {t u : Schedule} (h : u.Overdrawn ↔ t.Overdrawn) (s : Schedule)
    (id : AttemptId) (report : Report) : s.cause? u id report = s.cause? t id report := by
  simp only [cause?, h]

theorem Accepted.ruling (accepted : Accepted id report now s result) (h : s.Sound)
    (undecided : s.decision = none) (fits : s.task.allowance < 2 ^ 32) :
    result.2.decision = s.ruling result.1 id report := by
  obtain @⟨first, rest, t, u, more, change, closes, launches, busy⟩ := accepted
  have hnext := change.sound h
  have hmade : t.decision = first.decision := by
    rw [change.decision, undecided, Option.none_or]
  have hcause := change.cause h undecided fits closes
  rw [Step.andThen_decision]
  cases hfirst : s.cause? t id report with
  | some reason =>
    -- The closing change decides, so nothing is launched after it.
    rw [hfirst, Option.map_some] at hcause
    obtain ⟨rfl, rfl⟩ := launches.start_of_decided (by simp [hmade, hcause])
    simp [ruling, hfirst, hcause]
  | none =>
    rw [hfirst, Option.map_none] at hcause
    have hopen : t.decision = none := hmade.trans hcause
    have hexcess := launches.start_overdrawn hnext hopen (change.task ▸ fits)
    have hsame := cause?_congr hexcess s id report
    simp only [ruling, hsame, hfirst, hcause, Option.none_or]
    exact launches.conclusion hnext hopen busy

theorem Accepted.overdrawn (accepted : Accepted id report now s result) (h : s.Sound)
    (undecided : s.decision = none) (fits : s.task.allowance < 2 ^ 32) {p : ProcessName}
    {failures limit : UInt32}
    (hdecision : result.2.decision = some (.failed (.budgetExceeded p failures limit))) :
    limit = s.task.maxFailures ∧ failures.toNat = limit.toNat + 1 ∧
      result.1.charged result.1.options.counting = failures.toNat ∧
      (s.options.counting = .processes →
        result.1.stateOf? p = some .failed ∧ ¬ s.task.HasDependents p) := by
  obtain @⟨first, rest, t, u, more, change, closes, launches, busy⟩ := accepted
  have hmade : t.decision = first.decision := by
    rw [change.decision, undecided, Option.none_or]
  rw [Step.andThen_decision] at hdecision
  cases hfirst : first.decision with
  | some decision =>
    obtain ⟨rfl, rfl⟩ := launches.start_of_decided (by simp [hmade, hfirst])
    rw [hfirst, Option.some_or, ← hfirst] at hdecision
    exact change.overdrawn h undecided fits hdecision
  | none =>
    -- Launches decide for success only.
    rw [hfirst, Option.none_or,
      launches.conclusion (change.sound h) (hmade.trans hfirst) busy] at hdecision
    split at hdecision <;> cases hdecision

/-- An accepted completion decides the task by the rule. If it says that the budget
is exceeded, it does so at the first failure beyond the limit and gives the true
figures. -/
theorem Reachable.decision_rule (h : Reachable task options s) (undecided : s.decision = none)
    (fits : task.allowance < 2 ^ 32) (inFlight : id ∈ s.inFlight) (report : Report)
    (now : Instant) :
    let result := s.complete id report now
    result.2.decision = s.ruling result.1 id report ∧
    result.1.decision = result.2.decision ∧
    ∀ p failures limit, result.2.decision = some (.failed (.budgetExceeded p failures limit)) →
      limit = task.maxFailures ∧ failures.toNat = limit.toNat + 1 ∧
      result.1.charged options.counting = failures.toNat ∧
      (options.counting = .processes →
        result.1.stateOf? p = some .failed ∧ ¬ task.HasDependents p) := by
  intro result
  have hsound := h.sound
  have hoptions := h.options_eq
  obtain rfl := h.task_eq
  have haccepted : Accepted id report now s result := complete_inFlight hsound inFlight report now
  refine ⟨haccepted.ruling hsound undecided fits, ?_, fun p failures limit hdecision => ?_⟩
  · have hmade := apply_decision hsound (.complete id report now)
    rwa [undecided, Option.none_or] at hmade
  · have hkept : result.1.options = options :=
      (haccepted.conducted.changes.options).trans hoptions
    have htruth := haccepted.overdrawn hsound undecided fits hdecision
    rwa [hkept, hoptions] at htruth

/-- With failed attempts counted, the second failure of `first` exceeds the budget and
is its last: what waits for it decides. If `first` succeeds instead, the failure of
`second` is the second that counts, with one tolerated. -/
theorem Reachable.decision_rule_pair :
    let once := (initial .pair { counting := .attempts }).after
      [.start ⟨0⟩, .complete ⟨"first", 0⟩ ⟨.noExitCode, ⟨0⟩, ⟨1⟩⟩ ⟨1⟩]
    let healed := once.after [.complete ⟨"first", 1⟩ ⟨.success, ⟨1⟩, ⟨2⟩⟩ ⟨2⟩]
    let failure : Report := ⟨.noExitCode, ⟨1⟩, ⟨3⟩⟩
    let twice := once.complete ⟨"first", 1⟩ failure ⟨3⟩
    let last := healed.complete ⟨"second", 0⟩ failure ⟨3⟩
    once.decision = none ∧ healed.decision = none ∧ TaskSpec.pair.allowance < 2 ^ 32 ∧
      once.ruling twice.1 ⟨"first", 1⟩ failure = some (.failed (.dependencyFailed "first")) ∧
      twice.1.budget.exceeded = true ∧
      healed.ruling last.1 ⟨"second", 0⟩ failure =
        some (.failed (.budgetExceeded "second" 2 1)) ∧
      last.1.charged .attempts = 2 := by
  intro once healed failure twice last
  have honce : Reachable .pair { counting := .attempts } once := ⟨_, rfl⟩
  have hhealed : Reachable .pair { counting := .attempts } healed := honce.after _
  have fits : TaskSpec.pair.allowance < 2 ^ 32 := by decide
  have undecided : once.decision = none := by rfl
  have undecided' : healed.decision = none := by rfl
  have htwice : twice.2.decision = some (.failed (.dependencyFailed "first")) := by rfl
  have hlast : last.2.decision = some (.failed (.budgetExceeded "second" 2 1)) := by rfl
  have hfirst : (⟨"first", 1⟩ : AttemptId) ∈ once.inFlight := by decide
  have hsecond : (⟨"second", 0⟩ : AttemptId) ∈ healed.inFlight := by decide
  obtain ⟨hrule, _⟩ := honce.decision_rule undecided fits hfirst failure ⟨3⟩
  obtain ⟨hrule', _, htruth⟩ := hhealed.decision_rule undecided' fits hsecond failure ⟨3⟩
  exact ⟨undecided, undecided', fits, hrule.symm.trans htwice, by rfl, hrule'.symm.trans hlast,
    (htruth _ _ _ hlast).2.2.1⟩

end Schedule

end Overseer
