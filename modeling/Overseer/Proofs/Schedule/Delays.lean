import Overseer.Proofs.Schedule.Growth
import Overseer.Proofs.Schedule.Timing

/-!
# Delays of retries

Only a retry is ever made to wait, and only under the policy that delays them. It waits out
what the failed attempt left of the least run time of its process: nothing if the run is
recorded as long enough, and otherwise so long that the next attempt does not start before
the failed one should have ended. The run is recorded in one place and the wait is worked out
in another, each with a comparison of its own; the two always agree, and what is taken away
from the least run time is never more than it.

An attempt may be reported with times that run backwards. It then counts as having taken no
time, and the retry waits for the whole of the least run time.

Results:
1. `Lifecycle.restartDelay_remainder`: the delay is the exact remainder.
2. `Change.justified`, `apply_justified`: what is launched is a first attempt or a retry.
3. `Reachable.restart_delay`: both for the runs of a task.
-/

namespace Overseer

/-! ## The remainder of a least run time -/

/-- `delay` is what an attempt with `report` left of the time `least`, and `met` says
whether it left nothing. -/
structure Remainder (least : Span) (report : Report) (met : Bool) (delay : Span) : Prop where
  /-- The attempt is short exactly if its run is not recorded as long enough. -/
  agrees : least.exceeds report.elapsed = !met
  /-- Where the attempt is short, its time can be taken away from the least one. -/
  defined : least.exceeds report.elapsed = true → least.minus? report.elapsed = some delay
  /-- Over the integers, where a difference may be negative. -/
  exact : (delay.nanos : Int) =
    least.nanos - min (least.nanos : Int) (max 0 (report.endedAt.nanos - report.startedAt.nanos))
  within : delay.nanos ≤ least.nanos
  positive : 0 < delay.nanos ↔ met = false
  lasts : report.startedAt.nanos ≤ report.endedAt.nanos →
    (report.startedAt.later least).nanos ≤ (report.endedAt.later delay).nanos

theorem Report.elapsed_nanos (report : Report) :
    (report.elapsed.nanos : Int) = max 0 (report.endedAt.nanos - report.startedAt.nanos) := by
  rw [Int.max_comm]
  exact Int.ofNat_toNat _

/-- Falling short of a span is not reaching it. -/
theorem Span.exceeds_eq_not_metBy (span passed : Span) :
    span.exceeds passed = !span.metBy passed := by
  rw [exceeds, metBy, ← decide_not]
  exact decide_eq_decide.mpr Nat.not_le.symm

/-- What is left and what has passed make up the span. -/
theorem Span.minus?_eq_some {span passed left : Span} :
    span.minus? passed = some left ↔ left.nanos + passed.nanos = span.nanos := by
  obtain ⟨left⟩ := left
  change span.minus? passed = some ⟨left⟩ ↔ left + passed.nanos = span.nanos
  rw [minus?]
  split
  · rw [Option.some.injEq, mk.injEq]
    omega
  · simp only [reduceCtorEq, false_iff]
    omega

namespace Lifecycle

variable (life : Lifecycle) (report : Report)

theorem isShortLived_eq : life.isShortLived report = !life.spec.minDuration.metBy report.elapsed :=
  Span.exceeds_eq_not_metBy _ _

/-- What a short attempt left of the least run time is told exactly. -/
theorem minus?_of_isShortLived (hshort : life.isShortLived report = true) :
    life.spec.minDuration.minus? report.elapsed =
      some (life.restartDelay report .delayRestart) := by
  have hdelay : life.restartDelay? report .delayRestart =
      some (life.restartDelay report .delayRestart) := (Option.some_get _).symm
  rwa [restartDelay?, if_pos hshort] at hdelay

theorem restartDelay_of_long (hlong : life.isShortLived report = false) :
    life.restartDelay report .delayRestart = .zero := by
  simp [restartDelay, restartDelay?, hlong]

theorem restartDelay_remainder :
    Remainder life.spec.minDuration report (life.spec.minDuration.metBy report.elapsed)
      (life.restartDelay report .delayRestart) := by
  have helapsed := report.elapsed_nanos
  have hguard := life.isShortLived_eq report
  cases hshort : life.isShortLived report with
  | true =>
    have hminus := life.minus?_of_isShortLived report hshort
    have hsum := Span.minus?_eq_some.mp hminus
    have hbelow : report.elapsed.nanos < life.spec.minDuration.nanos := of_decide_eq_true hshort
    refine ⟨hguard, fun _ => hminus, ?_, by omega, ⟨fun _ => ?_, fun _ => by omega⟩, ?_⟩
    · omega
    · rwa [hshort, Bool.true_eq, Bool.not_eq_true'] at hguard
    · simp only [Instant.later]
      omega
  | false =>
    have hmet : life.spec.minDuration.metBy report.elapsed = true := by simpa [hshort] using hguard
    have hreached : life.spec.minDuration.nanos ≤ report.elapsed.nanos := of_decide_eq_true hmet
    rw [life.restartDelay_of_long report hshort, hmet]
    refine ⟨hshort, fun hcontra => ?_, ?_, Nat.zero_le _, by simp [Span.zero], ?_⟩
    · cases hshort.symm.trans hcontra
    · simp only [Span.zero]
      omega
    · simp only [Instant.later, Span.zero]
      omega

end Lifecycle

/-! ## What is launched -/

namespace Schedule

/-- The attempt is the first of its process and does not wait. -/
structure Fresh (attempt : Attempt) : Prop where
  index : attempt.id.index = 0
  delay : attempt.restartDelay = .zero

/-- `attempt` retries the attempt `previous` of its process, which `op` reported as failed.
In `t`, after `op`, the run of `previous` is closed, and `met` says whether it was long
enough. -/
structure Retries (attempt : Attempt) (previous : UInt32) (op : Operation) (report : Report)
    (met : Bool) (t : Schedule) : Prop where
  call : ∃ now, op = .complete ⟨attempt.id.process, previous⟩ report now
  failed : report.outcome.isSuccess = false
  next : attempt.id.index.toNat = previous.toNat + 1
  closed : ∃ runs, (attempt.id.process, runs) ∈ t.records ∧
    ⟨⟨attempt.id.process, previous⟩, .ended report met⟩ ∈ runs
  /-- The attempt is told of the least run time of its process. -/
  declared : ∃ spec ∈ t.task.processes,
    spec.name = attempt.id.process ∧ spec.minDuration = attempt.minDuration

/-- How long a retry waits under a policy. -/
def Awaits (attempt : Attempt) (report : Report) (met : Bool) : MinDurationPolicy → Prop
  | .observe => attempt.restartDelay = .zero
  | .delayRestart => Remainder attempt.minDuration report met attempt.restartDelay

/-- An attempt that `op` launches is the first of its process, or a retry that waits as the
policy asks. -/
inductive Justified (attempt : Attempt) (op : Operation) (t : Schedule) : Prop
  | fresh (first : Fresh attempt)
  | retry (previous : UInt32) (report : Report) (met : Bool)
      (retries : Retries attempt previous op report met t)
      (delay : Awaits attempt report met t.options.minDuration)

variable {s t : Schedule} {step : Step} {life : Lifecycle} {op : Operation} {now : Instant}
  {index : UInt32} {report : Report} {attempt : Attempt}

theorem awaits_restartDelay (life : Lifecycle) (report : Report) (index : UInt32)
    (policy : MinDurationPolicy) :
    Awaits (Attempt.ofSpec life.spec index (life.restartDelay report policy)) report
      (life.spec.minDuration.metBy report.elapsed) policy := by
  cases policy with
  | observe => rfl
  | delayRestart => exact life.restartDelay_remainder report

/-- The retry of a tolerated failure follows the closed run. -/
theorem Coherent.retries (h : s.Coherent) (hmem : life ∈ s.lifecycles)
    (hopen : life.openAttempt? = some index) (failure : report.outcome.isSuccess = false)
    (now : Instant) (delay : Span) :
    Retries (Attempt.ofSpec life.spec (index + 1) delay) index
      (.complete ⟨life.name, index⟩ report now) report
      (life.spec.minDuration.metBy report.elapsed)
      ((s.noteRetry life report).put ((life.tolerated report).opened now)) where
  call := ⟨now, rfl⟩
  failed := failure
  next := (h.lifecycles life hmem).next_toNat hopen
  closed := by
    obtain ⟨earlier, last, hflight⟩ := (h.lifecycles life hmem).inFlight hopen
    have hsame : ((life.tolerated report).opened now).name = life.name := rfl
    refine ⟨_, mem_records.mpr ⟨(life.tolerated report).opened now, ?_, ?_, rfl, rfl⟩, ?_⟩
    · rw [lifecycles_retried]
      exact mem_put_self h.distinct hmem hsame
    · simp [Lifecycle.opened]
    · refine List.mem_append_left _ ?_
      rw [show (life.tolerated report).runs = _ from hflight.closedRuns report]
      refine List.mem_append_right _ (List.mem_singleton.mpr ?_)
      rw [Run.close, hflight.id]
      rfl
  declared := ⟨life.spec, h.spec_mem hmem, rfl, rfl⟩

end Schedule

open Schedule in
theorem Change.justified {op : Operation} {s t : Schedule} {step : Step}
    (change : Change op s step t) (h : s.Coherent) :
    ∀ attempt ∈ step.launched, Justified attempt op t := by
  cases change with
  | launch =>
    rintro attempt hmem
    rw [List.mem_singleton.mp hmem]
    exact .fresh ⟨rfl, rfl⟩
  | @retry life index report now call _ mem opened failure _ _ =>
    rintro attempt hmem
    rw [List.mem_singleton.mp hmem, call]
    exact .retry index report _ (h.retries mem opened failure now _)
      (awaits_restartDelay life report _ _)
  | succeed | overrun | tolerate | exhaust | fatal | late | cancel | conclude =>
    intro attempt hmem
    cases hmem

namespace Schedule

variable {task : TaskSpec} {options : SchedulerOptions} {s t : Schedule} {step : Step}
  {op : Operation} {now : Instant} {attempt : Attempt} {p : ProcessName} {runs : List Run}

/-- Launches that follow leave the runs of what was launched before. -/
theorem mem_records_of_launches (launches : Changes (.start now) s step t) (h : s.Sound)
    (hmem : (p, runs) ∈ s.records) : (p, runs) ∈ t.records := by
  obtain ⟨life, hlife, hne, hname, hruns⟩ := mem_records.mp hmem
  clear hmem
  refine mem_records.mpr ⟨life, ?_, hne, hname, hruns⟩
  induction launches with
  | none s => exact hlife
  | @more s t u first rest change _ ih =>
    refine ih (change.sound h) ?_
    cases change with
    | @launch other now _ mem ready _ =>
      have hpending := ((isReady_iff s other).mp ready).1
      have hother : life ≠ other := by
        rintro rfl
        exact hne ((h.coherent.lifecycles life hlife).pending_iff.mp hpending)
      have hsame : (other.opened now).name = other.name := rfl
      exact (mem_put h.coherent.distinct mem hsame).mpr (Or.inr ⟨hlife, hother⟩)
    | conclude => exact hlife
    | succeed call | retry call | overrun call | tolerate call | exhaust call | fatal call
    | late call | cancel call => cases call

theorem Justified.launching (justified : Justified attempt op s)
    (launches : Changes (.start now) s step t) (h : s.Sound) : Justified attempt op t := by
  cases justified with
  | fresh first => exact .fresh first
  | retry previous report met retries delay =>
    obtain ⟨runs, hrecorded, hclosed⟩ := retries.closed
    exact .retry previous report met
      { retries with
        closed := ⟨runs, mem_records_of_launches launches h hrecorded, hclosed⟩
        declared := launches.task ▸ retries.declared }
      (launches.options ▸ delay)

/-- Launches alone retry nothing. -/
theorem launches_fresh (launches : Changes (.start now) s step t) (h : s.Sound) :
    ∀ attempt ∈ step.launched, Fresh attempt := by
  induction launches with
  | none s => exact fun _ hmem => absurd hmem List.not_mem_nil
  | more change launches ih =>
    intro attempt hmem
    rcases List.mem_append.mp hmem with hfirst | hrest
    · cases change.justified h.coherent attempt hfirst with
      | fresh first => exact first
      | retry _ _ _ retries _ =>
        obtain ⟨_, hcall⟩ := retries.call
        cases hcall
    · exact ih (change.sound h) attempt hrest

theorem apply_justified (h : s.Sound) (op : Operation) :
    ∀ attempt ∈ (s.apply op).2.launched, Justified attempt op (s.apply op).1 := by
  obtain ⟨now, t, first, rest, hfirst, launches, hstep⟩ := apply_split h op
  rw [hstep]
  intro attempt hmem
  rcases hfirst with ⟨rfl, rfl⟩ | change
  · exact .fresh (launches_fresh launches h attempt hmem)
  · have hsound := change.sound h
    rcases List.mem_append.mp hmem with hfirst | hrest
    · exact (change.justified h.coherent attempt hfirst).launching launches hsound
    · exact .fresh (launches_fresh launches hsound attempt hrest)

/-! ## Runs -/

/-- Whatever is reported of an attempt, it is short exactly if its run is not recorded as
long enough, and then its time can be taken away from the least run time.

An attempt that is launched waits only if it is a retry and the policy delays retries.
A retry comes in the step that takes the report of the failed attempt before it, and under
that policy it waits for exactly what the failed attempt left of the least run time. -/
theorem Reachable.restart_delay (h : Reachable task options s) (op : Operation) :
    (∀ life ∈ s.lifecycles, ∀ report,
      life.isShortLived report = !life.spec.minDuration.metBy report.elapsed ∧
      (life.isShortLived report = true →
        ∃ left, life.spec.minDuration.minus? report.elapsed = some left)) ∧
    ∀ attempt ∈ (s.apply op).2.launched,
      (attempt.restartDelay ≠ .zero →
        options.minDuration = .delayRestart ∧ attempt.id.index ≠ 0) ∧
      (attempt.id.index ≠ 0 → ∃ previous report met,
        Retries attempt previous op report met (s.apply op).1 ∧
        (options.minDuration = .delayRestart →
          Remainder attempt.minDuration report met attempt.restartDelay)) := by
  refine ⟨fun life _ report => ⟨life.isShortLived_eq report, fun hshort =>
    ⟨_, life.minus?_of_isShortLived report hshort⟩⟩, ?_⟩
  intro attempt hmem
  have hoptions : (s.apply op).1.options = options := (h.after [op]).options_eq
  cases apply_justified h.sound op attempt hmem with
  | fresh first =>
    exact ⟨fun hdelay => absurd first.delay hdelay, fun hindex => absurd first.index hindex⟩
  | retry previous report met retries delay =>
    have hindex : attempt.id.index ≠ 0 := by
      intro hzero
      have hnext := retries.next
      rw [hzero] at hnext
      exact absurd hnext (by simp)
    rw [hoptions] at delay
    refine ⟨fun hdelay => ⟨?_, hindex⟩, fun _ => ⟨previous, report, met, retries, ?_⟩⟩
    · cases hpolicy : options.minDuration with
      | observe =>
        rw [hpolicy] at delay
        exact absurd delay hdelay
      | delayRestart => rfl
    · intro hpolicy
      rw [hpolicy] at delay
      exact delay

/-- `first` fails after nine of the sixty nanoseconds that it should run, and its retry waits
for the other fifty-one. -/
theorem Reachable.restart_delay_slowPair :
    let s := (initial .slowPair { minDuration := .delayRestart }).after [.start ⟨0⟩]
    let op : Operation := .complete ⟨"first", 0⟩ ⟨.failure 1, ⟨0⟩, ⟨9⟩⟩ ⟨9⟩
    let attempt : Attempt := ⟨⟨"first", 1⟩, "sleep 1", ⟨60⟩, ⟨51⟩⟩
    Reachable .slowPair { minDuration := .delayRestart } s ∧
      (s.apply op).2.launched = [attempt] ∧
      ∃ previous report met, Retries attempt previous op report met (s.apply op).1 ∧
        Remainder ⟨60⟩ report met ⟨51⟩ := by
  intro s op attempt
  have hs : Reachable .slowPair { minDuration := .delayRestart } s := ⟨_, rfl⟩
  have hlaunched : (s.apply op).2.launched = [attempt] := by decide
  have hmem : attempt ∈ (s.apply op).2.launched := hlaunched ▸ List.mem_singleton_self attempt
  obtain ⟨_, hlaunches⟩ := hs.restart_delay op
  obtain ⟨_, hretry⟩ := hlaunches attempt hmem
  obtain ⟨previous, report, met, retries, hremainder⟩ := hretry (by decide)
  exact ⟨hs, hlaunched, previous, report, met, retries, hremainder rfl⟩

end Schedule

end Overseer
