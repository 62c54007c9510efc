import Overseer.Proofs.Schedule.Stopping

/-!
# Completions that fit nothing

A completion counts only for the attempt that its process has open. Any other, whether
its process is unknown, its attempt was never launched or has ended, or another attempt of
the process is open, gets an empty answer and changes nothing, before the decision and
after it. An attempt that has ended is never open again. So completions that are repeated
or foreign may be put in between the operations of a run, as many as one likes and with
any reports: the run ends as before, and its own operations get the answers they had.

Results:
1. `complete_unopened`: a completion that names no open attempt is ignored.
2. `not_mem_inFlight_of_closed`: what has ended stays so.
3. `Padded.after_eq`, `Padded.answers`: a run with stray completions put in.
4. `strays_invisible`: all of this for the runs of a task.
-/

namespace Overseer

/-- An operation that arrives at a schedule; `extra` marks one that was put in. -/
structure Arrival where
  op : Operation
  extra : Bool

namespace Schedule

/-- After the operations `past` a completion names an attempt that is not open. -/
inductive Stray (outset : Schedule) (past : List Operation) : Operation → Prop
  /-- The attempt has ended before. -/
  | repeated (id : AttemptId) (report : Report) (now : Instant)
      (ended : id ∈ outset.closedBy past) : Stray outset past (.complete id report now)
  /-- No such attempt was launched so far: perhaps there is no such process. -/
  | foreign (id : AttemptId) (report : Report) (now : Instant)
      (unlaunched : id ∉ outset.launchedBy past) : Stray outset past (.complete id report now)

/-- `outset.Padded past ops arrivals`: the arrivals are the operations `ops`, which follow
on `past`, with stray completions put in. -/
inductive Padded (outset : Schedule) : List Operation → List Operation → List Arrival → Prop
  | nil (past : List Operation) : Padded outset past [] []
  | original {past rest : List Operation} {arrivals : List Arrival} (op : Operation)
      (more : Padded outset (past ++ [op]) rest arrivals) :
      Padded outset past (op :: rest) (⟨op, false⟩ :: arrivals)
  | extra {past ops : List Operation} {arrivals : List Arrival} {op : Operation}
      (stray : Stray outset past op) (more : Padded outset past ops arrivals) :
      Padded outset past ops (⟨op, true⟩ :: arrivals)

/-- What the arrivals are answered, each with its answer. -/
def answers (schedule : Schedule) (arrivals : List Arrival) : List (Arrival × Step) :=
  arrivals.zip (schedule.steps (arrivals.map (·.op)))

variable {s : Schedule} {id : AttemptId} {report : Report} {now : Instant}

theorem answers_cons (s : Schedule) (arrival : Arrival) (rest : List Arrival) :
    s.answers (arrival :: rest) =
      (arrival, (s.apply arrival.op).2) :: (s.apply arrival.op).1.answers rest := rfl

/-! ## One completion -/

theorem mem_inFlight_iff_lifecycle? (hd : s.Distinct) :
    id ∈ s.inFlight ↔
      ∃ life, s.lifecycle? id.process = some life ∧ life.openAttempt? = some id.index := by
  simp only [mem_inFlight, lifecycle?_eq_some hd, and_assoc]

theorem complete_unopened (hd : s.Distinct)
    (unopened : ∀ life, s.lifecycle? id.process = some life → life.openAttempt? ≠ some id.index) :
    s.complete id report now = (s, {}) := by
  refine complete_ignored hd fun hid => ?_
  obtain ⟨life, hfind, hopen⟩ := (mem_inFlight_iff_lifecycle? hd).mp hid
  exact unopened life hfind hopen

variable (task : TaskSpec) (options : SchedulerOptions)

/-- An attempt that has ended is not open, whatever is done after. -/
theorem not_mem_inFlight_of_closed {ops : List Operation}
    (ended : id ∈ (initial task options).closedBy ops) (more : List Operation) :
    id ∉ ((initial task options).after (ops ++ more)).inFlight := by
  rw [mem_inFlight_iff, closedBy_append]
  exact fun h => h.2 (List.mem_append_left _ ended)

theorem Stray.ignored {past : List Operation} {op : Operation}
    (stray : Stray (initial task options) past op) :
    ((initial task options).after past).apply op = ((initial task options).after past, {}) := by
  have hd := (after_sound (initial_sound task options) past).coherent.distinct
  cases stray with
  | repeated id report now ended =>
    refine complete_ignored hd fun hid => ?_
    exact ((mem_inFlight_iff task options past id).mp hid).2 ended
  | foreign id report now unlaunched =>
    refine complete_ignored hd fun hid => ?_
    exact unlaunched ((mem_inFlight_iff task options past id).mp hid).1

/-! ## Any number of them -/

variable {task options} {past ops : List Operation} {arrivals : List Arrival}

theorem Padded.after_eq (padded : (initial task options).Padded past ops arrivals) :
    ((initial task options).after past).after (arrivals.map (·.op)) =
      ((initial task options).after past).after ops := by
  induction padded with
  | nil past => rfl
  | original op more ih =>
    rw [after_append] at ih
    exact ih
  | extra stray more ih => rw [List.map_cons, after_cons, stray.ignored, ih]

/-- The operations that were there before get the answers that they had, and those that
were put in get empty ones. -/
theorem Padded.answers (padded : (initial task options).Padded past ops arrivals) :
    ((((initial task options).after past).answers arrivals).filter (!·.1.extra)).map (·.2) =
        ((initial task options).after past).steps ops ∧
      ∀ answer ∈ ((initial task options).after past).answers arrivals,
        answer.1.extra = true → answer.2 = {} := by
  induction padded with
  | nil past => exact ⟨rfl, fun answer hmem => absurd hmem List.not_mem_nil⟩
  | original op more ih =>
    rw [after_append] at ih
    obtain ⟨hkept, hextra⟩ := ih
    rw [answers_cons]
    refine ⟨congrArg (_ :: ·) hkept, List.forall_mem_cons.mpr ⟨fun hfalse => ?_, hextra⟩⟩
    cases hfalse
  | extra stray more ih =>
    obtain ⟨hkept, hextra⟩ := ih
    rw [answers_cons, stray.ignored]
    exact ⟨hkept, List.forall_mem_cons.mpr ⟨fun _ => rfl, hextra⟩⟩

/-- On every schedule that a run can reach, a completion that does not name the open
attempt of its process does nothing. An attempt whose completion was taken is never open
again, whatever follows. So repeated and foreign completions that are put in between the
operations of a run leave it where it ends and each of its operations its answer. -/
theorem strays_invisible (task : TaskSpec) (options : SchedulerOptions) :
    let outset := initial task options
    (∀ s, Reachable task options s → ∀ id : AttemptId,
      (∀ life, s.lifecycle? id.process = some life → life.openAttempt? ≠ some id.index) →
      ∀ report now, s.complete id report now = (s, {})) ∧
    (∀ before id report now, id ∈ (outset.after before).inFlight →
      id ∈ outset.closedBy (before ++ [.complete id report now]) ∧
      ∀ more, id ∉ (outset.after (before ++ .complete id report now :: more)).inFlight) ∧
    ∀ ops arrivals, outset.Padded [] ops arrivals →
      outset.after (arrivals.map (·.op)) = outset.after ops ∧
      ((outset.answers arrivals).filter (!·.1.extra)).map (·.2) = outset.steps ops ∧
      ∀ answer ∈ outset.answers arrivals, answer.1.extra = true → answer.2 = {} := by
  intro outset
  refine ⟨fun s hs id unopened report now => ?_, fun before id report now hid => ?_,
    fun ops arrivals padded => ⟨padded.after_eq, padded.answers⟩⟩
  · exact complete_unopened hs.sound.coherent.distinct unopened
  · have hsound := after_sound (initial_sound task options) before
    have ended : id ∈ outset.closedBy (before ++ [.complete id report now]) := by
      refine mem_closedBy_concat ?_
      rw [apply_complete_closedIds hsound hid report now]
      exact List.mem_singleton_self id
    refine ⟨ended, fun more => ?_⟩
    rw [List.append_cons]
    exact not_mem_inFlight_of_closed task options ended more

/-- A completion of an unknown process and a second one of the failed attempt, this time
with a success, are put in: `first` is tried again all the same. -/
theorem strays_invisible_unordered :
    let failure : Report := ⟨.noExitCode, ⟨0⟩, ⟨1⟩⟩
    let success : Report := ⟨.success, ⟨0⟩, ⟨2⟩⟩
    let ops : List Operation := [.start ⟨0⟩, .complete ⟨"first", 0⟩ failure ⟨1⟩]
    let arrivals : List Arrival :=
      [⟨.start ⟨0⟩, false⟩, ⟨.complete ⟨"other", 0⟩ success ⟨0⟩, true⟩,
        ⟨.complete ⟨"first", 0⟩ failure ⟨1⟩, false⟩, ⟨.complete ⟨"first", 0⟩ success ⟨2⟩, true⟩]
    let outset := initial .unordered {}
    outset.Padded [] ops arrivals ∧ (outset.after ops).inFlight = [⟨"first", 1⟩] ∧
      outset.after (arrivals.map (·.op)) = outset.after ops ∧
      ((outset.answers arrivals).filter (!·.1.extra)).map (·.2) = outset.steps ops ∧
      ∀ answer ∈ outset.answers arrivals, answer.1.extra = true → answer.2 = {} := by
  intro failure success ops arrivals
  have padded : (initial .unordered {}).Padded [] ops arrivals :=
    .original _ (.extra (.foreign _ _ _ (by decide))
      (.original _ (.extra (.repeated _ _ _ (by decide)) (.nil _))))
  obtain ⟨_, _, hpadded⟩ := strays_invisible .unordered {}
  obtain ⟨hafter, hkept, hextra⟩ := hpadded ops arrivals padded
  exact ⟨padded, by decide, hafter, hkept, hextra⟩

end Schedule

end Overseer
