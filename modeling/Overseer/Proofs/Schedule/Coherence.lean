import Overseer.Proofs.Precedence.Blocking
import Overseer.Proofs.Schedule.Change
import Overseer.Proofs.Task.Checked

/-!
# The invariant of schedules

`Schedule.Coherent` holds of every schedule that a run can reach: the lifecycles
are those of the declared processes, each is well formed, a recorded success is a
real one, and whatever was launched had all its predecessors succeeded. While the
task is undecided `Schedule.Active` holds as well: what is running has an open
attempt, precedence and budget agree with the lifecycles, nothing is blocked, no
process that others wait for has failed and the budget is not exceeded. The part
about the budget, `Schedule.Accounted`, lasts until a completion comes late.

Results:
1. `Change.accounted`: a change of an undecided schedule accounts for failures.
2. `Change.sound`: each change keeps `Schedule.Sound`, which is both together.
3. `Schedule.initial_sound`: it holds before anything has happened.
-/

namespace Overseer

namespace Schedule

structure Coherent (schedule : Schedule) : Prop where
  specs : schedule.lifecycles.map (·.spec) = schedule.task.processes
  lifecycles : ∀ life ∈ schedule.lifecycles, life.Coherent
  succeeded : ∀ p ∈ schedule.progress.succeeded,
    ∃ life ∈ schedule.lifecycles, life.name = p ∧ life.state = .success
  ordered : ∀ life ∈ schedule.lifecycles, life.runs ≠ [] →
    ∀ p, schedule.task.Requires p life.name → p ∈ schedule.progress.succeeded

/-- The failures counted so far. -/
def failureSum (schedule : Schedule) : Nat := (schedule.lifecycles.map (·.failures.toNat)).sum

/-- The number of processes that have failed for good. -/
def failedCount (schedule : Schedule) : Nat := schedule.lifecycles.countP (·.state = .failed)

/-- The budget that the lifecycles account for. -/
def tally (schedule : Schedule) : FailureBudget where
  limit := schedule.task.maxFailures
  counting := schedule.options.counting
  failedProcesses := UInt32.ofNat schedule.failedCount
  failedAttempts := UInt32.ofNat schedule.failureSum

/-- Every failed process has used its failures up, and the budget is up to date. -/
structure Accounted (schedule : Schedule) : Prop where
  exhausted : ∀ life ∈ schedule.lifecycles, life.state = .failed →
    life.failures.toNat = life.limit
  budget : schedule.budget = schedule.tally

structure Active (schedule : Schedule) : Prop where
  accounted : schedule.Accounted
  running : ∀ life ∈ schedule.lifecycles, life.state = .running →
    ∃ index, life.openAttempt? = some index
  succeeded : ∀ life ∈ schedule.lifecycles, life.state = .success →
    life.name ∈ schedule.progress.succeeded
  unneeded : ∀ life ∈ schedule.lifecycles, life.state = .failed →
    ¬ schedule.task.HasDependents life.name
  unblocked : schedule.progress.blocked = []
  within : schedule.budget.exceeded = false

structure Sound (schedule : Schedule) : Prop where
  coherent : schedule.Coherent
  active : schedule.decision = none → schedule.Active

variable {schedule : Schedule} {life new : Lifecycle}

/-! ## Consequences -/

theorem Coherent.names (h : schedule.Coherent) :
    schedule.lifecycles.map (·.name) = schedule.task.processNames := by
  rw [TaskDraft.processNames, ← h.specs, List.map_map]
  rfl

theorem Coherent.distinct (h : schedule.Coherent) : schedule.Distinct := by
  rw [Distinct, h.names]
  exact schedule.task.nodup_processNames

theorem Coherent.spec_mem (h : schedule.Coherent) (hmem : life ∈ schedule.lifecycles) :
    life.spec ∈ schedule.task.processes := by
  rw [← h.specs]
  exact List.mem_map_of_mem hmem

theorem Coherent.limit_eq (h : schedule.Coherent) (hmem : life ∈ schedule.lifecycles) :
    life.limit = life.spec.maxFailures.toNat := by
  have hne := schedule.task.maxFailures_ne_zero (h.spec_mem hmem)
  rw [Lifecycle.limit, Lifecycle.failureLimit, if_neg hne]

theorem Coherent.exists_life (h : schedule.Coherent) {p : ProcessName}
    (hp : p ∈ schedule.task.processNames) : ∃ life ∈ schedule.lifecycles, life.name = p := by
  rw [← h.names] at hp
  exact List.mem_map.mp hp

theorem Coherent.name_mem_order (h : schedule.Coherent) (hmem : life ∈ schedule.lifecycles) :
    life.name ∈ schedule.task.precedence.order := by
  rw [schedule.task.precedence_sound.mem_order, ← h.names]
  exact List.mem_map_of_mem hmem

theorem Coherent.stateOf?_of_succeeded (h : schedule.Coherent) {p : ProcessName}
    (hp : p ∈ schedule.progress.succeeded) : schedule.stateOf? p = some .success :=
  (stateOf?_eq_some h.distinct).mpr (h.succeeded p hp)

theorem isReady_iff (schedule : Schedule) (life : Lifecycle) :
    schedule.isReady life = true ↔
      life.state = .pending ∧
        schedule.progress.eligible schedule.task.precedence life.name = true ∧
        life.name ∉ schedule.progress.blocked := by
  simp [isReady, Progress.isBlocked, and_assoc]

theorem eligible_iff (task : TaskSpec) (progress : Progress) {p : ProcessName} :
    progress.eligible task.precedence p = true ↔
      p ∈ task.precedence.order ∧ ∀ q, task.Requires q p → q ∈ progress.succeeded := by
  simp [Progress.eligible, TaskSpec.mem_dependenciesOf]

/-! ## The lasting part -/

/-- Replacing the lifecycle of a process by a later one. -/
theorem Coherent.put (h : schedule.Coherent) (new : Lifecycle)
    (hmem : life ∈ schedule.lifecycles) (hspec : new.spec = life.spec) (hnew : new.Coherent)
    (hsuccess : life.state = .success → new.state = .success)
    (hordered : ∀ p, schedule.task.Requires p life.name → p ∈ schedule.progress.succeeded) :
    (schedule.put new).Coherent := by
  have hname := Lifecycle.name_eq_of_spec hspec
  refine ⟨?_, ?_, ?_, ?_⟩
  · rw [put_map h.distinct hmem hname _ hspec, put_task]
    exact h.specs
  · intro other hother
    rcases (mem_put h.distinct hmem hname).mp hother with rfl | ⟨hother, _⟩
    · exact hnew
    · exact h.lifecycles other hother
  · intro p hp
    obtain ⟨other, hother, hpname, hstate⟩ := h.succeeded p hp
    -- A process that had succeeded may be the very one that is replaced.
    by_cases hsame : other = life
    · subst hsame
      exact ⟨new, mem_put_self h.distinct hmem hname, hname.trans hpname, hsuccess hstate⟩
    · exact ⟨other, (mem_put h.distinct hmem hname).mpr (Or.inr ⟨hother, hsame⟩), hpname, hstate⟩
  · intro other hother hruns p hp
    rcases (mem_put h.distinct hmem hname).mp hother with rfl | ⟨hother, _⟩
    · exact hordered p (hname ▸ hp)
    · exact h.ordered other hother hruns p hp

theorem Coherent.requires_succeeded (h : schedule.Coherent) (hmem : life ∈ schedule.lifecycles)
    {index : UInt32} (hopen : life.openAttempt? = some index) :
    ∀ p, schedule.task.Requires p life.name → p ∈ schedule.progress.succeeded :=
  h.ordered life hmem (Lifecycle.runs_ne_nil_of_openAttempt? hopen)

/-- Replacing a lifecycle whose open attempt has ended. -/
theorem Coherent.putClosed (h : schedule.Coherent) (new : Lifecycle)
    (hmem : life ∈ schedule.lifecycles) {index : UInt32} (hopen : life.openAttempt? = some index)
    (hspec : new.spec = life.spec) (hnew : new.Coherent) : (schedule.put new).Coherent := by
  refine h.put new hmem hspec hnew ?_ (h.requires_succeeded hmem hopen)
  have hstate := (h.lifecycles life hmem).running_of_openAttempt? hopen
  intro hsuccess
  rw [hstate] at hsuccess
  cases hsuccess

/-- Successes may be added as long as they are real; nothing else of the
progress matters here. -/
theorem Coherent.withProgress (h : schedule.Coherent) (progress : Progress)
    (hmono : ∀ p ∈ schedule.progress.succeeded, p ∈ progress.succeeded)
    (hreal : ∀ p ∈ progress.succeeded,
      ∃ life ∈ schedule.lifecycles, life.name = p ∧ life.state = .success) :
    ({ schedule with progress } : Schedule).Coherent :=
  ⟨h.specs, h.lifecycles, hreal,
    fun life hlife hruns p hp => hmono p (h.ordered life hlife hruns p hp)⟩

theorem Coherent.withBudget (h : schedule.Coherent) (budget : FailureBudget) :
    ({ schedule with budget } : Schedule).Coherent :=
  ⟨h.specs, h.lifecycles, h.succeeded, h.ordered⟩

theorem Coherent.decide (h : schedule.Coherent) (decision : Decision) :
    (schedule.decide decision).Coherent :=
  ⟨h.specs, h.lifecycles, h.succeeded, h.ordered⟩

end Schedule

namespace Schedule

section Noting

variable {schedule : Schedule} {life : Lifecycle} {index : UInt32} {report : Report}

theorem Coherent.noteSuccess (h : schedule.Coherent) (hmem : life ∈ schedule.lifecycles)
    (hopen : life.openAttempt? = some index) (hsuccess : report.outcome.isSuccess = true) :
    (schedule.noteSuccess life report).Coherent := by
  have hlife := (h.lifecycles life hmem).succeeded hopen hsuccess
  have hput := h.putClosed (life.succeeded report) hmem hopen rfl hlife
  have hlisted := h.name_mem_order hmem
  refine hput.withProgress _ ?_ ?_
  · intro p hp
    exact (Progress.mem_succeeded_recordSuccess hlisted).mpr (Or.inr hp)
  · intro p hp
    rcases (Progress.mem_succeeded_recordSuccess hlisted).mp hp with rfl | hp
    · exact ⟨life.succeeded report, mem_put_self h.distinct hmem rfl, rfl, rfl⟩
    · exact hput.succeeded p hp

theorem Coherent.noteRetry (h : schedule.Coherent) (hmem : life ∈ schedule.lifecycles)
    (hopen : life.openAttempt? = some index) (hfailure : report.outcome.isSuccess = false)
    (hleft : life.failures + 1 < life.failureLimit) :
    (schedule.noteRetry life report).Coherent :=
  (h.putClosed (life.tolerated report) hmem hopen rfl
    ((h.lifecycles life hmem).tolerated hopen hfailure hleft)).withBudget _

theorem Coherent.noteFailure (h : schedule.Coherent) (hmem : life ∈ schedule.lifecycles)
    (hopen : life.openAttempt? = some index) (hfailure : report.outcome.isSuccess = false)
    (hlast : life.failureLimit ≤ life.failures + 1) :
    (schedule.noteFailure life report).Coherent := by
  have hput := h.putClosed (life.givenUp report) hmem hopen rfl
    ((h.lifecycles life hmem).givenUp hopen hfailure hlast)
  have hprogress := hput.withProgress
    (schedule.progress.recordFailure schedule.task.precedence life.name).1 ?_ ?_
  · exact hprogress.withBudget _
  · intro p hp
    rw [Progress.recordFailure_succeeded]
    exact hp
  · intro p hp
    rw [Progress.recordFailure_succeeded] at hp
    exact hput.succeeded p hp

theorem Coherent.retried (h : schedule.Coherent) (hmem : life ∈ schedule.lifecycles)
    (hopen : life.openAttempt? = some index) (hfailure : report.outcome.isSuccess = false)
    (hleft : life.failures + 1 < life.failureLimit) (now : Instant) :
    ((schedule.noteRetry life report).put ((life.tolerated report).opened now)).Coherent := by
  have hnoted := h.noteRetry hmem hopen hfailure hleft
  have hlife := (h.lifecycles life hmem).tolerated hopen hfailure hleft
  have hmem' : life.tolerated report ∈ (schedule.noteRetry life report).lifecycles :=
    mem_put_self h.distinct hmem rfl
  have hstate := (h.lifecycles life hmem).running_of_openAttempt? hopen
  refine hnoted.put _ hmem' rfl ?_ ?_ ?_
  · exact hlife.opened now (Or.inr hstate)
      ((h.lifecycles life hmem).openAttempt?_of_closed hopen rfl)
  · intro hsuccess
    rw [Lifecycle.tolerated_state, hstate] at hsuccess
    cases hsuccess
  · exact fun p hp => h.requires_succeeded hmem hopen p hp

theorem Coherent.launched (h : schedule.Coherent) (hmem : life ∈ schedule.lifecycles)
    (hready : schedule.isReady life = true) (now : Instant) :
    (schedule.put (life.opened now)).Coherent := by
  obtain ⟨hpending, heligible, _⟩ := (isReady_iff schedule life).mp hready
  have hlife := h.lifecycles life hmem
  refine h.put _ hmem rfl (hlife.opened now (Or.inl hpending) (hlife.idle_of_pending hpending)) ?_
    ((eligible_iff _ _).mp heligible).2
  intro hsuccess
  rw [hpending] at hsuccess
  cases hsuccess

end Noting

end Schedule

theorem Change.coherent {op : Operation} {s t : Schedule} {step : Step}
    (change : Change op s step t) (h : s.Coherent) : t.Coherent := by
  cases change with
  | launch now _ mem ready _ => exact h.launched mem ready now
  | succeed _ _ mem opened success => exact h.noteSuccess mem opened success
  | retry _ _ mem opened failure left _ => exact h.retried mem opened failure left _
  | overrun _ _ mem opened failure left _ => exact (h.noteRetry mem opened failure left).decide _
  | tolerate _ _ mem opened failure last _ _ => exact h.noteFailure mem opened failure last
  | exhaust _ _ mem opened failure last _ _ =>
    exact (h.noteFailure mem opened failure last).decide _
  | fatal _ _ mem opened failure last _ =>
    exact (h.noteFailure mem opened failure last).decide _
  | late _ _ mem opened =>
    exact h.putClosed _ mem opened rfl ((h.lifecycles _ mem).closedLate opened)
  | cancel _ _ => exact h.decide _
  | conclude _ _ => exact h.decide _

/-! ## The part that holds until the decision -/

namespace Schedule

variable {s t : Schedule} {life new : Lifecycle}

theorem failedCount_put (hd : s.Distinct) (new : Lifecycle) (hmem : life ∈ s.lifecycles)
    (hname : new.name = life.name) (hlife : life.state ≠ .failed) :
    (s.put new).failedCount = s.failedCount + if new.state = .failed then 1 else 0 := by
  have hcount := put_countP hd hmem hname (fun l => l.state = .failed)
  simpa [failedCount, hlife] using hcount

theorem failureSum_put (hd : s.Distinct) (new : Lifecycle) (hmem : life ∈ s.lifecycles)
    (hname : new.name = life.name) :
    (s.put new).failureSum + life.failures.toNat = s.failureSum + new.failures.toNat :=
  put_sum hd hmem hname (fun l => l.failures.toNat)

theorem tally_congr (htask : t.task = s.task) (hoptions : t.options = s.options)
    (hcount : t.failedCount = s.failedCount) (hsum : t.failureSum = s.failureSum) :
    t.tally = s.tally := by
  simp only [tally, htask, hoptions, hcount, hsum]

/-- The budget accounts for one more failure, and one more failed process if
`terminal`. -/
theorem tally_record {terminal : Bool} (htask : t.task = s.task)
    (hoptions : t.options = s.options)
    (hcount : t.failedCount = s.failedCount + if terminal then 1 else 0)
    (hsum : t.failureSum = s.failureSum + 1) : t.tally = s.tally.record terminal := by
  simp only [tally, FailureBudget.record, htask, hoptions, hcount, hsum, UInt32.ofNat_add]
  cases terminal <;> simp

section Accounted

variable {index : UInt32} {report : Report}

/-- A change of one lifecycle leaves all failures accounted for, if the budget is
brought up to date. -/
theorem Accounted.replace (h : s.Accounted) (hd : s.Distinct) (new : Lifecycle)
    (hmem : life ∈ s.lifecycles) (hname : new.name = life.name)
    (hlives : t.lifecycles = (s.put new).lifecycles)
    (hexhausted : new.state = .failed → new.failures.toNat = new.limit)
    (hbudget : t.budget = t.tally) : t.Accounted where
  exhausted := by
    intro other hother
    rw [hlives] at hother
    rcases (mem_put hd hmem hname).mp hother with rfl | ⟨hother, _⟩
    · exact hexhausted
    · exact h.exhausted other hother
  budget := hbudget

theorem Accounted.launched (h : s.Accounted) (hd : s.Distinct) (hmem : life ∈ s.lifecycles)
    (hlive : life.state ≠ .failed) (now : Instant) : (s.put (life.opened now)).Accounted := by
  have hcount := failedCount_put hd (life.opened now) hmem rfl hlive
  have hsum := failureSum_put hd (life.opened now) hmem rfl
  refine h.replace hd (life.opened now) hmem rfl rfl ?_ ?_
  · intro hstate
    cases hstate
  · rw [put_budget, h.budget]
    exact Eq.symm (tally_congr rfl rfl hcount (Nat.add_right_cancel hsum))

theorem Accounted.noteSuccess (h : s.Accounted) (hd : s.Distinct) (hmem : life ∈ s.lifecycles)
    (hlive : life.state ≠ .failed) : (s.noteSuccess life report).Accounted := by
  have hcount := failedCount_put hd (life.succeeded report) hmem rfl hlive
  have hsum := failureSum_put hd (life.succeeded report) hmem rfl
  refine h.replace hd (life.succeeded report) hmem rfl rfl ?_ ?_
  · intro hstate
    cases hstate
  · rw [noteSuccess_budget, h.budget]
    exact Eq.symm (tally_congr rfl rfl hcount (Nat.add_right_cancel hsum))

theorem Accounted.noteRetry (h : s.Accounted) (hc : s.Coherent) (hmem : life ∈ s.lifecycles)
    (hopen : life.openAttempt? = some index) : (s.noteRetry life report).Accounted := by
  have hlife := hc.lifecycles life hmem
  have hstate : (life.tolerated report).state ≠ .failed := hlife.live_of_openAttempt? hopen
  have hcount := failedCount_put hc.distinct (life.tolerated report) hmem rfl hstate
  have hsum := failureSum_put hc.distinct (life.tolerated report) hmem rfl
  refine h.replace hc.distinct (life.tolerated report) hmem rfl rfl
    (fun hfailed => absurd hfailed hstate) ?_
  rw [noteRetry_budget, h.budget]
  refine Eq.symm (tally_record rfl rfl ?_ ?_)
  · rw [if_neg hstate] at hcount
    exact hcount
  · rw [Lifecycle.tolerated_failures, hlife.failures_succ hopen] at hsum
    simp only [failureSum, noteRetry_lifecycles] at hsum ⊢
    omega

theorem Accounted.noteFailure (h : s.Accounted) (hc : s.Coherent) (hmem : life ∈ s.lifecycles)
    (hopen : life.openAttempt? = some index) (hlast : life.failureLimit ≤ life.failures + 1) :
    (s.noteFailure life report).Accounted := by
  have hlife := hc.lifecycles life hmem
  have hcount := failedCount_put hc.distinct (life.givenUp report) hmem rfl
    (hlife.live_of_openAttempt? hopen)
  have hsum := failureSum_put hc.distinct (life.givenUp report) hmem rfl
  refine h.replace hc.distinct (life.givenUp report) hmem rfl rfl
    (fun _ => hlife.failures_givenUp report hopen hlast) ?_
  rw [noteFailure_budget, h.budget]
  refine Eq.symm (tally_record rfl rfl ?_ ?_)
  · change (s.put (life.givenUp report)).failedCount = _
    simpa using hcount
  · rw [Lifecycle.givenUp_failures, hlife.failures_succ hopen] at hsum
    simp only [failureSum, noteFailure_lifecycles] at hsum ⊢
    omega

theorem Accounted.decide (h : s.Accounted) (decision : Decision) :
    (s.decide decision).Accounted :=
  ⟨h.exhausted, h.budget⟩

end Accounted

end Schedule

theorem Change.accounted {op : Operation} {s t : Schedule} {step : Step}
    (change : Change op s step t) (hc : s.Coherent) (h : s.Accounted)
    (undecided : s.decision = none) : t.Accounted := by
  cases change with
  | launch now _ mem ready _ =>
    have hpending := ((Schedule.isReady_iff s _).mp ready).1
    exact h.launched hc.distinct mem (by rw [hpending]; decide) now
  | succeed _ _ mem opened _ =>
    exact h.noteSuccess hc.distinct mem ((hc.lifecycles _ mem).live_of_openAttempt? opened)
  | retry _ _ mem opened failure left _ =>
    exact (h.noteRetry hc mem opened).launched (hc.noteRetry mem opened failure left).distinct
      (Schedule.mem_put_self hc.distinct mem rfl)
      ((hc.lifecycles _ mem).live_of_openAttempt? opened) _
  | overrun _ _ mem opened _ _ _ => exact (h.noteRetry hc mem opened).decide _
  | tolerate _ _ mem opened _ last _ _ => exact h.noteFailure hc mem opened last
  | exhaust _ _ mem opened _ last _ _ => exact (h.noteFailure hc mem opened last).decide _
  | fatal _ _ mem opened _ last _ => exact (h.noteFailure hc mem opened last).decide _
  | late _ decided _ _ => exact absurd undecided decided
  | cancel _ _ => exact h.decide _
  | conclude _ _ => exact h.decide _

namespace Schedule

variable {s t : Schedule} {life new : Lifecycle}

/-- A change of one lifecycle that was not settled keeps a schedule active, if
the new lifecycle meets the conditions and the budget holds. -/
theorem Active.replace (h : s.Active) (hd : s.Distinct) (new : Lifecycle)
    (hmem : life ∈ s.lifecycles) (hname : new.name = life.name) (htask : t.task = s.task)
    (hlives : t.lifecycles = (s.put new).lifecycles) (haccounted : t.Accounted)
    (hrunning : new.state = .running → ∃ index, new.openAttempt? = some index)
    (hsuccess : new.state = .success → new.name ∈ t.progress.succeeded)
    (hmono : ∀ p ∈ s.progress.succeeded, p ∈ t.progress.succeeded)
    (hunneeded : new.state = .failed → ¬ s.task.HasDependents new.name)
    (hblocked : t.progress.blocked = s.progress.blocked)
    (hwithin : t.budget.exceeded = false) : t.Active where
  accounted := haccounted
  running := by
    intro other hother
    rw [hlives] at hother
    rcases (mem_put hd hmem hname).mp hother with rfl | ⟨hother, _⟩
    · exact hrunning
    · exact h.running other hother
  succeeded := by
    intro other hother hstate
    rw [hlives] at hother
    rcases (mem_put hd hmem hname).mp hother with rfl | ⟨hother, _⟩
    · exact hsuccess hstate
    · exact hmono _ (h.succeeded other hother hstate)
  unneeded := by
    intro other hother hstate
    rw [hlives] at hother
    rw [htask]
    rcases (mem_put hd hmem hname).mp hother with rfl | ⟨hother, _⟩
    · exact hunneeded hstate
    · exact h.unneeded other hother hstate
  unblocked := hblocked.trans h.unblocked
  within := hwithin

section Active

variable {report : Report}

theorem Active.launched (h : s.Active) (hd : s.Distinct) (hmem : life ∈ s.lifecycles)
    (now : Instant) (haccounted : (s.put (life.opened now)).Accounted) :
    (s.put (life.opened now)).Active := by
  refine h.replace hd (life.opened now) hmem rfl rfl rfl haccounted
    (fun _ => ⟨_, life.openAttempt?_opened now⟩) ?_ (fun _ hp => hp) ?_ rfl h.within
  · intro hstate
    cases hstate
  · intro hstate
    cases hstate

theorem Active.noteSuccess (h : s.Active) (hc : s.Coherent) (hmem : life ∈ s.lifecycles)
    (haccounted : (s.noteSuccess life report).Accounted) :
    (s.noteSuccess life report).Active := by
  have hlisted := hc.name_mem_order hmem
  refine h.replace hc.distinct (life.succeeded report) hmem rfl rfl rfl haccounted ?_ ?_ ?_ ?_
    (Progress.recordSuccess_blocked _ _ _) h.within
  · intro hstate
    cases hstate
  · intro _
    exact (Progress.mem_succeeded_recordSuccess hlisted).mpr (Or.inl rfl)
  · intro p hp
    exact (Progress.mem_succeeded_recordSuccess hlisted).mpr (Or.inr hp)
  · intro hstate
    cases hstate

theorem Active.retried (h : s.Active) (hd : s.Distinct) (hmem : life ∈ s.lifecycles)
    (hwithin : (s.budget.record false).exceeded = false) (now : Instant)
    (haccounted :
      ((s.noteRetry life report).put ((life.tolerated report).opened now)).Accounted) :
    ((s.noteRetry life report).put ((life.tolerated report).opened now)).Active := by
  refine h.replace hd ((life.tolerated report).opened now) hmem rfl rfl
    (lifecycles_retried s life report now) haccounted
    (fun _ => ⟨_, (life.tolerated report).openAttempt?_opened now⟩) ?_ (fun _ hp => hp) ?_ rfl
    hwithin
  · intro hstate
    cases hstate
  · intro hstate
    cases hstate

theorem Active.noteFailure (h : s.Active) (hd : s.Distinct) (hmem : life ∈ s.lifecycles)
    (hleaf : s.task.precedence.isPredecessor life.name = false)
    (hwithin : (s.budget.record true).exceeded = false)
    (haccounted : (s.noteFailure life report).Accounted) :
    (s.noteFailure life report).Active := by
  refine h.replace hd (life.givenUp report) hmem rfl rfl rfl haccounted ?_ ?_ ?_ ?_
    (Progress.recordFailure_of_leaf hleaf).1 hwithin
  · intro hstate
    cases hstate
  · intro hstate
    cases hstate
  · intro p hp
    exact (Progress.recordFailure_succeeded _ _ _).symm ▸ hp
  · intro _ hdependents
    have hpred := (s.task.isPredecessor_iff).mpr hdependents
    rw [Lifecycle.name_eq_of_spec (Lifecycle.givenUp_spec life report), hleaf] at hpred
    cases hpred

end Active

end Schedule

theorem Change.active {op : Operation} {s t : Schedule} {step : Step}
    (change : Change op s step t) (h : s.Sound) (undecided : t.decision = none) : t.Active := by
  have hnone := change.undecided undecided
  have hactive := h.active hnone
  have haccounted := change.accounted h.coherent hactive.accounted hnone
  have hd := h.coherent.distinct
  cases change with
  | launch now _ mem _ _ => exact hactive.launched hd mem now haccounted
  | succeed _ _ mem _ _ => exact hactive.noteSuccess h.coherent mem haccounted
  | retry _ _ mem _ _ _ within => exact hactive.retried hd mem within _ haccounted
  | tolerate _ _ mem _ _ _ leaf within => exact hactive.noteFailure hd mem leaf within haccounted
  | late _ decided _ _ => exact absurd hnone decided
  | overrun | exhaust | fatal | cancel | conclude => cases undecided

theorem Change.sound {op : Operation} {s t : Schedule} {step : Step}
    (change : Change op s step t) (h : s.Sound) : t.Sound :=
  ⟨change.coherent h.coherent, change.active h⟩

theorem Changes.sound {op : Operation} {s t : Schedule} {step : Step}
    (changes : Changes op s step t) (h : s.Sound) : t.Sound := by
  induction changes with
  | none s => exact h
  | more change _ ih => exact ih (change.sound h)

/-- What each change keeps, a series of them keeps. -/
theorem Changes.keep {P : Schedule → Prop}
    (kept : ∀ {op s t step}, Change op s step t → s.Sound → P s → P t) {op : Operation}
    {s t : Schedule} {step : Step} (changes : Changes op s step t) (h : s.Sound) (hs : P s) :
    P t := by
  induction changes with
  | none s => exact hs
  | more change _ ih => exact ih (change.sound h) (kept change h hs)

namespace Schedule

/-! ## The outset -/

theorem initial_coherent (task : TaskSpec) (options : SchedulerOptions) :
    (initial task options).Coherent where
  specs := by simp [initial, Function.comp_def]
  lifecycles := by
    intro life hmem
    obtain ⟨spec, _, rfl⟩ := List.mem_map.mp hmem
    exact Lifecycle.coherent_of_spec spec
  succeeded := by simp [initial]
  ordered := by
    intro life hmem hruns
    obtain ⟨spec, _, rfl⟩ := List.mem_map.mp hmem
    exact absurd rfl hruns

theorem initial_pending {task : TaskSpec} {options : SchedulerOptions}
    (h : life ∈ (initial task options).lifecycles) :
    life.state = .pending ∧ life.runs = [] ∧ life.failures = 0 := by
  obtain ⟨spec, _, rfl⟩ := List.mem_map.mp h
  exact ⟨rfl, rfl, rfl⟩

theorem initial_active (task : TaskSpec) (options : SchedulerOptions) :
    (initial task options).Active := by
  have hcount : (initial task options).failedCount = 0 := by
    rw [failedCount, List.countP_eq_zero]
    intro life hmem
    rw [(initial_pending hmem).1]
    decide
  have hsum : (initial task options).failureSum = 0 := by
    rw [failureSum, List.sum_eq_zero_iff_forall_eq_nat]
    simp [initial]
  refine ⟨⟨?_, ?_⟩, ?_, ?_, ?_, rfl, ?_⟩
  · intro life hmem hstate
    rw [(initial_pending hmem).1] at hstate
    cases hstate
  · rw [tally, hcount, hsum]
    rfl
  · intro life hmem hstate
    rw [(initial_pending hmem).1] at hstate
    cases hstate
  · intro life hmem hstate
    rw [(initial_pending hmem).1] at hstate
    cases hstate
  · intro life hmem hstate
    rw [(initial_pending hmem).1] at hstate
    cases hstate
  · cases hcounting : options.counting <;>
      simp [initial, FailureBudget.exceeded, FailureBudget.count, hcounting]

theorem initial_sound (task : TaskSpec) (options : SchedulerOptions) :
    (initial task options).Sound :=
  ⟨initial_coherent task options, fun _ => initial_active task options⟩

end Schedule

end Overseer
