import Overseer.Proofs.Schedule.Operations

/-!
# No schedule is stuck

A busy schedule always has something in flight. If nothing were running, some
process would be pending; a pending process of the lowest rank has only succeeded
predecessors, because the failure of a process that others wait for decides the
task, and so it would have been launched.

Results:
1. `Busy.exists_running`: a busy undecided schedule has a running process.
2. `after_start_busy`: from any start on an undecided schedule is busy.
3. `Started.never_stuck`: from the start of a task on, an undecided
   schedule has attempts in flight, and the operation that settles the last
   process makes the decision.
-/

namespace Overseer

namespace Schedule

variable {s : Schedule} {life : Lifecycle}

/-- Every process has come to its end. -/
def Settled (schedule : Schedule) : Prop :=
  ∀ life ∈ schedule.lifecycles, life.state.isTerminal = true

instance (schedule : Schedule) : Decidable schedule.Settled :=
  inferInstanceAs (Decidable (∀ life ∈ schedule.lifecycles, life.state.isTerminal = true))

/-- Nothing is blocked before the decision, so what is not outstanding has ended. -/
theorem Active.settled (ha : s.Active) (hnone : s.lifecycles.any s.isOutstanding = false) :
    s.Settled := by
  intro life hmem
  have hout := List.any_eq_false.mp hnone life hmem
  cases hstate : life.state with
  | pending => simp [isOutstanding, hstate, Progress.isBlocked, ha.unblocked] at hout
  | running => simp [isOutstanding, hstate] at hout
  | success | failed => rfl

/-! ## Busy schedules -/

/-- With nothing running, what is ready has room and would have been launched. -/
theorem Busy.not_ready (hb : s.Busy) (hidle : ∀ life ∈ s.lifecycles, life.state ≠ .running)
    (hmem : life ∈ s.lifecycles) : s.isReady life = false := by
  have hcount : s.runningCount = 0 := by
    rw [runningCount, List.countP_eq_zero]
    intro other hother
    simpa using hidle other hother
  have hfree : s.isFull s.runningCount = false := by
    rw [isFull_eq_false, hcount]
    by_cases hlimit : s.task.maxConcurrency = 0
    · exact Or.inl hlimit
    · exact Or.inr (Nat.pos_of_ne_zero fun hzero => hlimit (UInt64.toNat_inj.mp hzero))
  have hnone : s.readyNames = [] :=
    (nextLaunches_eq_nil.mp hb.launched).resolve_right (by simp [hfree])
  by_contra hready
  have hlisted : life.name ∈ s.readyNames :=
    mem_readyNames.mpr ⟨life, hmem, by simpa using hready, rfl⟩
  rw [hnone] at hlisted
  cases hlisted

/-- By induction on the rank: a pending process waits for one of lower rank that
is pending as well. -/
theorem Busy.not_pending (h : s.Coherent) (ha : s.Active) (hb : s.Busy)
    (hidle : ∀ life ∈ s.lifecycles, life.state ≠ .running) (hmem : life ∈ s.lifecycles) :
    life.state ≠ .pending := by
  induction hrank : s.task.rank life.name using Nat.strongRecOn generalizing life with
  | _ n ih =>
    subst hrank
    intro hpending
    have hready := hb.not_ready hidle hmem
    have hmissing : ∃ q, s.task.Requires q life.name ∧ q ∉ s.progress.succeeded := by
      by_contra hall
      push Not at hall
      have heligible := (eligible_iff s.task s.progress).mpr ⟨h.name_mem_order hmem, hall⟩
      have hyes := (isReady_iff s life).mpr ⟨hpending, heligible, by simp [ha.unblocked]⟩
      rw [hready] at hyes
      cases hyes
    obtain ⟨q, hrequires, hnot⟩ := hmissing
    obtain ⟨other, hother, rfl⟩ := h.exists_life (s.task.declared_of_requires hrequires).1
    -- What `life` waits for can neither have succeeded nor have failed, so it is pending too.
    cases hstate : other.state with
    | pending =>
      exact ih _ (s.task.rank_lt_of_requires hrequires) hother rfl hstate
    | running => exact hidle other hother hstate
    | success => exact hnot (ha.succeeded other hother hstate)
    | failed => exact ha.unneeded other hother hstate ⟨life.name, hrequires⟩

theorem Busy.exists_running (h : s.Sound) (undecided : s.decision = none) (hb : s.Busy) :
    ∃ life ∈ s.lifecycles, life.state = .running := by
  by_contra hnone
  push Not at hnone
  obtain ⟨life, hmem, hout⟩ := List.any_eq_true.mp hb.outstanding
  have hpending := hb.not_pending h.coherent (h.active undecided) hnone hmem
  have hrunning := hnone life hmem
  cases hstate : life.state with
  | pending => exact hpending hstate
  | running => exact hrunning hstate
  | success | failed => simp [isOutstanding, hstate] at hout

theorem Busy.inFlight_ne_nil (h : s.Sound) (undecided : s.decision = none) (hb : s.Busy) :
    s.inFlight ≠ [] := by
  obtain ⟨life, hmem, hrunning⟩ := hb.exists_running h undecided
  obtain ⟨index, hopen⟩ := (h.active undecided).running life hmem hrunning
  have hlisted : (⟨life.name, index⟩ : AttemptId) ∈ s.inFlight :=
    mem_inFlight.mpr ⟨life, hmem, rfl, hopen⟩
  exact List.ne_nil_of_mem hlisted

theorem Busy.not_settled (h : s.Sound) (undecided : s.decision = none) (hb : s.Busy) :
    ¬ s.Settled := by
  intro hsettled
  obtain ⟨life, hmem, hrunning⟩ := hb.exists_running h undecided
  have hterminal := hsettled life hmem
  rw [hrunning] at hterminal
  cases hterminal

/-! ## Runs -/

/-- What a start leaves undecided is busy. -/
theorem start_busy (h : s.Sound) (now : Instant)
    (undecided : (s.apply (.start now)).1.decision = none) : (s.apply (.start now)).1.Busy := by
  have hnone := apply_undecided h undecided
  rw [apply_start hnone] at undecided ⊢
  exact (advance_changes now h hnone).2 undecided

/-- Every operation leaves a schedule busy or decided, if it was. -/
theorem apply_busy (h : s.Sound) (hbusy : s.decision = none → s.Busy) (op : Operation)
    (undecided : (s.apply op).1.decision = none) : (s.apply op).1.Busy := by
  have hnone := apply_undecided h undecided
  rcases apply_conducted h op with hsame | hconducted
  · rw [hsame]
    exact hbusy hnone
  · exact hconducted.busy undecided

theorem after_busy (h : s.Sound) (hbusy : s.decision = none → s.Busy) (ops : List Operation)
    (undecided : (s.after ops).decision = none) : (s.after ops).Busy := by
  induction ops generalizing s with
  | nil => exact hbusy undecided
  | cons op rest ih => exact ih (apply_sound h op) (apply_busy h hbusy op) undecided

section Started

variable {task : TaskSpec} {options : SchedulerOptions}

/-- From any start on an undecided schedule is busy. -/
theorem after_start_busy {ops : List Operation} {now : Instant} (hstart : .start now ∈ ops)
    (undecided : ((initial task options).after ops).decision = none) :
    ((initial task options).after ops).Busy := by
  obtain ⟨before, rest, rfl⟩ := List.append_of_mem hstart
  have hsound := after_sound (initial_sound task options) before
  rw [after_append, after_cons] at undecided ⊢
  exact after_busy (apply_sound hsound _) (start_busy hsound now) rest undecided

theorem Started.busy (h : Started task options s) (undecided : s.decision = none) : s.Busy := by
  obtain ⟨now, ops, rfl⟩ := h
  exact after_start_busy List.mem_cons_self undecided

/-- Whatever happens after the start of a task, an undecided schedule has an
attempt in flight, and the operation that settles the last process is the one
that decides. -/
theorem Started.never_stuck (h : Started task options s) (undecided : s.decision = none) :
    s.inFlight ≠ [] ∧ ¬ s.Settled ∧
      ∀ op, (s.apply op).1.Settled → (s.apply op).2.decision ≠ none := by
  have hsound := h.reachable.sound
  have hbusy := h.busy undecided
  refine ⟨hbusy.inFlight_ne_nil hsound undecided, hbusy.not_settled hsound undecided, ?_⟩
  intro op hsettled hnone
  have hleft : (s.apply op).1.decision = none := by
    rw [apply_decision hsound, undecided, hnone]
    rfl
  exact (apply_busy hsound (fun _ => hbusy) op hleft).not_settled (apply_sound hsound op) hleft
    hsettled

/-- Once `first` has succeeded the task of two processes is undecided with
`second` in flight, and decided when that ends. -/
theorem Started.never_stuck_pair :
    let s := (initial .pair {}).after
      [.start ⟨0⟩, .complete ⟨"first", 0⟩ ⟨.success, ⟨0⟩, ⟨1⟩⟩ ⟨1⟩]
    let last : Operation := .complete ⟨"second", 0⟩ ⟨.success, ⟨1⟩, ⟨2⟩⟩ ⟨2⟩
    s.decision = none ∧ s.inFlight ≠ [] ∧ (s.apply last).2.decision ≠ none :=
  have hnone : ((initial .pair {}).after
      [.start ⟨0⟩, .complete ⟨"first", 0⟩ ⟨.success, ⟨0⟩, ⟨1⟩⟩ ⟨1⟩]).decision = none := by rfl
  have hstuck := Started.never_stuck ⟨⟨0⟩, _, rfl⟩ hnone
  ⟨hnone, hstuck.1, hstuck.2.2 _ (by decide)⟩

end Started

end Schedule

end Overseer
