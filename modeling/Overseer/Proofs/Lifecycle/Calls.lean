import Overseer.Proofs.Lifecycle.Stages

/-!
# Calls on a lifecycle

A `Call` is one input to a lifecycle, with any arguments. Whoever calls, and in whatever
order, a lifecycle stays coherent, so a call is accepted exactly if it fits: a launch if the
process has not ended and has nothing open, a completion if it names the open attempt. Any
other call changes nothing, and its refusal says which of the two did not fit.

The failures that count are the runs that a completion before the decision closed as
failed. A late completion closes a run without counting it, and ends the process.

Results:
1. `call_answered`: every call, accepted or not, and what it leads to.
2. `call_eq_ok_iff`, `call_eq_error_iff`: when a call is accepted, and how it is refused.
3. `Counted.call`, `Counted.after`: what is counted.
4. `launch_after`: the number of the next launch.
5. `calls_exact`: all of this for a lifecycle after any calls.
-/

namespace Overseer

namespace Lifecycle

inductive Call
  | launch (now : Instant)
  | complete (index : UInt32) (report : Report) (policy : MinDurationPolicy)
  | completeLate (index : UInt32) (report : Report)
  deriving DecidableEq

/-- The attempt that a call names. -/
def Call.index? : Call → Option UInt32
  | launch _ => none
  | complete index _ _ | completeLate index _ => some index

/-- What is answered to an accepted call. Only a completion before the decision gets a
verdict. -/
structure Answer where
  transition : Transition
  verdict : Option Verdict := none
  deriving DecidableEq

/-! ## Calls and their answers -/

/-- The lifecycle after a call, and its answer. -/
def call (life : Lifecycle) : Call → Lifecycle × Except TransitionError Answer
  | .launch now =>
    let (next, answer) := life.launch now
    (next, answer.map fun transition => { transition })
  | .complete index report policy =>
    let (next, answer) := life.complete index report policy
    (next, answer.map fun (transition, verdict) => { transition, verdict })
  | .completeLate index report =>
    let (next, answer) := life.completeLate index report
    (next, answer.map fun transition => { transition })

def after (life : Lifecycle) : List Call → Lifecycle
  | [] => life
  | call :: rest => (life.call call).1.after rest

/-- The answers to the given calls, in order. -/
def replies (life : Lifecycle) : List Call → List (Except TransitionError Answer)
  | [] => []
  | call :: rest => (life.call call).2 :: (life.call call).1.replies rest

/-- The attempt that a call completed before the decision, by its answer. -/
def completedBy : Except TransitionError Answer → List AttemptId
  | .ok ⟨transition, some _⟩ => [transition.id]
  | .ok ⟨_, none⟩ | .error _ => []

/-- The launch that a call made, by its answer. -/
def launchIn? : Except TransitionError Answer → Option Transition
  | .ok answer => if answer.transition.newState = .running then some answer.transition else none
  | .error _ => none

/-- The attempts that the given calls completed before the decision. -/
def completedIds (life : Lifecycle) (calls : List Call) : List AttemptId :=
  (life.replies calls).flatMap completedBy

/-- The first launch that the given calls make. -/
def nextLaunch? (life : Lifecycle) (calls : List Call) : Option Transition :=
  (life.replies calls).findSome? launchIn?

/-! ## What fits -/

/-- The call fits: a launch if the process has not ended and no run of it is open, a
completion if it names the open attempt. -/
def Admits (life : Lifecycle) : Call → Prop
  | .launch _ => life.state.isTerminal = false ∧ ∀ run ∈ life.runs, run.isOpen = false
  | .complete index _ _ | .completeLate index _ => life.openAttempt? = some index

/-- Why a call does not fit. -/
inductive Refuses (life : Lifecycle) (call : Call) : TransitionError → Prop
  | ended (terminal : life.state.isTerminal = true) :
      Refuses life call (.alreadyTerminal life.name life.state)
  /-- A launch while an attempt is in flight. -/
  | busy (attempt : UInt32) (launches : call.index? = none)
      (opened : life.openAttempt? = some attempt) :
      Refuses life call (.attemptInFlight life.name attempt)
  /-- A completion of another attempt than the one in flight. -/
  | stale (expected got : UInt32) (names : call.index? = some got)
      (opened : life.openAttempt? = some expected) (different : expected ≠ got) :
      Refuses life call (.staleAttempt life.name expected got)
  | idle (got : UInt32) (names : call.index? = some got)
      (live : life.state.isTerminal = false) (closed : life.openAttempt? = none) :
      Refuses life call (.noOpenAttempt life.name)

/-- What a call leads to, with its answer. -/
inductive Answered (life : Lifecycle) : Call → Lifecycle × Except TransitionError Answer → Prop
  | refused {call : Call} {refusal : TransitionError} (why : life.Refuses call refusal) :
      Answered life call (life, .error refusal)
  | launched (now : Instant) (live : life.state.isTerminal = false)
      (idle : life.openAttempt? = none) :
      Answered life (.launch now)
        (life.opened now, .ok { transition := .launch life.nextId now })
  | succeeded {index : UInt32} {report : Report} (policy : MinDurationPolicy)
      (opened : life.openAttempt? = some index) (success : report.outcome.isSuccess = true) :
      Answered life (.complete index report policy) (life.succeeded report,
        .ok { transition := .closing ⟨life.name, index⟩ report, verdict := some .succeeded })
  | tolerated {index : UInt32} {report : Report} (policy : MinDurationPolicy)
      (opened : life.openAttempt? = some index) (failure : report.outcome.isSuccess = false)
      (left : life.failures + 1 < life.failureLimit) :
      Answered life (.complete index report policy) (life.tolerated report,
        .ok { transition := .closing ⟨life.name, index⟩ report
              verdict := some (.retry (index + 1) (life.restartDelay report policy)) })
  | givenUp {index : UInt32} {report : Report} (policy : MinDurationPolicy)
      (opened : life.openAttempt? = some index) (failure : report.outcome.isSuccess = false)
      (last : life.failureLimit ≤ life.failures + 1) :
      Answered life (.complete index report policy) (life.givenUp report,
        .ok { transition := .closing ⟨life.name, index⟩ report
              verdict := some .permanentlyFailed })
  | closedLate {index : UInt32} (report : Report) (opened : life.openAttempt? = some index) :
      Answered life (.completeLate index report) (life.closedLate report,
        .ok { transition := .closing ⟨life.name, index⟩ report })

variable {life : Lifecycle} {index : UInt32} {report : Report} {c : Call}
  {refusal : TransitionError} {calls : List Call}

/-! ## One call -/

/-- A completion that does not fit is refused for one of three reasons. -/
theorem closeRun_refuses (hnames : c.index? = some index)
    (hopen : life.openAttempt? ≠ some index) (report : Report) :
    ∃ refusal, life.closeRun index report = (life, .error refusal) ∧ life.Refuses c refusal := by
  unfold closeRun
  cases hrun : life.openRun? with
  | none =>
    have hidle : life.openAttempt? = none := by simp [openAttempt?, hrun]
    cases hterminal : life.state.isTerminal with
    | true => exact ⟨_, by simp, .ended hterminal⟩
    | false => exact ⟨_, by simp, .idle index hnames hterminal hidle⟩
  | some run =>
    have hexpected : life.openAttempt? = some run.id.index := by simp [openAttempt?, hrun]
    have hne : run.id.index ≠ index := fun heq => hopen (heq ▸ hexpected)
    exact ⟨_, by simp [hne], .stale run.id.index index hnames hexpected hne⟩

theorem launch_answered (life : Lifecycle) (now : Instant) :
    life.Answered (.launch now) (life.call (.launch now)) := by
  cases hterminal : life.state.isTerminal with
  | true =>
    simp only [call, launch, hterminal, if_true]
    exact .refused (.ended hterminal)
  | false =>
    cases hopen : life.openAttempt? with
    | some attempt =>
      simp only [call, launch, hterminal, hopen, Bool.false_eq_true, if_false]
      exact .refused (.busy attempt rfl hopen)
    | none =>
      simp only [call, launch_eq_ok now hterminal hopen]
      exact .launched now hterminal hopen

theorem complete_answered (life : Lifecycle) (index : UInt32) (report : Report)
    (policy : MinDurationPolicy) :
    life.Answered (.complete index report policy)
      (life.call (.complete index report policy)) := by
  by_cases hopen : life.openAttempt? = some index
  · cases hout : report.outcome.isSuccess with
    | true =>
      simp only [call, complete_eq_ok_of_success policy hopen hout]
      exact .succeeded policy hopen hout
    | false =>
      by_cases hleft : life.failures + 1 < life.failureLimit
      · simp only [call, complete_eq_ok_of_retry policy hopen hout hleft]
        exact .tolerated policy hopen hout hleft
      · have hlast := UInt32.not_lt.mp hleft
        simp only [call, complete_eq_ok_of_last policy hopen hout hlast]
        exact .givenUp policy hopen hout hlast
  · obtain ⟨refusal, hclose, hwhy⟩ :=
      closeRun_refuses (c := .complete index report policy) rfl hopen report
    simp only [call, complete, hclose]
    exact .refused hwhy

theorem completeLate_answered (life : Lifecycle) (index : UInt32) (report : Report) :
    life.Answered (.completeLate index report) (life.call (.completeLate index report)) := by
  by_cases hopen : life.openAttempt? = some index
  · simp only [call, completeLate_eq_ok report hopen]
    exact .closedLate report hopen
  · obtain ⟨refusal, hclose, hwhy⟩ :=
      closeRun_refuses (c := .completeLate index report) rfl hopen report
    simp only [call, completeLate, hclose]
    exact .refused hwhy

theorem call_answered (life : Lifecycle) (c : Call) : life.Answered c (life.call c) := by
  cases c with
  | launch now => exact launch_answered life now
  | complete index report policy => exact complete_answered life index report policy
  | completeLate index report => exact completeLate_answered life index report

theorem Coherent.idle_of_terminal (h : life.Coherent) (hterminal : life.state.isTerminal = true) :
    life.openAttempt? = none := by
  cases hopen : life.openAttempt? with
  | none => rfl
  | some index =>
    rw [h.running_of_openAttempt? hopen] at hterminal
    cases hterminal

theorem Answered.coherent {result : Lifecycle × Except TransitionError Answer}
    (answered : life.Answered c result) (h : life.Coherent) : result.1.Coherent := by
  cases answered with
  | refused why => exact h
  | launched now live idle =>
    refine h.opened now ?_ idle
    cases hstate : life.state with
    | pending => exact Or.inl rfl
    | running => exact Or.inr rfl
    | success | failed => rw [hstate] at live; cases live
  | succeeded policy opened success => exact h.succeeded opened success
  | tolerated policy opened failure left => exact h.tolerated opened failure left
  | givenUp policy opened failure last => exact h.givenUp opened failure last
  | closedLate report opened => exact h.closedLate opened

/-- A call does not fit for one reason only. -/
theorem Refuses.unique {other : TransitionError} (why : life.Refuses c refusal)
    (why' : life.Refuses c other) (h : life.Coherent) : refusal = other := by
  have hidle := h.idle_of_terminal
  cases why <;> cases why' <;> simp_all

/-- No run is open exactly if there is no attempt in flight. -/
theorem Coherent.idle_iff (h : life.Coherent) :
    life.openAttempt? = none ↔ ∀ run ∈ life.runs, run.isOpen = false := by
  constructor
  · intro hidle run hrun
    cases hopen : run.isOpen with
    | false => rfl
    | true =>
      rw [h.openAttempt?_of_isOpen hrun hopen] at hidle
      cases hidle
  · intro hclosed
    cases hopen : life.openAttempt? with
    | none => rfl
    | some index =>
      obtain ⟨earlier, last, hflight⟩ := h.inFlight hopen
      have hlast := hclosed last (by simp [hflight.runs])
      rw [hflight.isOpen] at hlast
      cases hlast

theorem admits_launch_iff (h : life.Coherent) (now : Instant) :
    life.Admits (.launch now) ↔ life.state.isTerminal = false ∧ life.openAttempt? = none :=
  and_congr_right fun _ => h.idle_iff.symm

theorem Refuses.not_admits (why : life.Refuses c refusal) (h : life.Coherent) :
    ¬ life.Admits c := by
  have hidle := h.idle_of_terminal
  cases c with
  | launch now =>
    rw [admits_launch_iff h]
    cases why <;> simp_all [Call.index?]
  | complete index report policy => cases why <;> simp_all [Admits, Call.index?]
  | completeLate index report => cases why <;> simp_all [Admits, Call.index?]

theorem call_eq_ok_iff (h : life.Coherent) (c : Call) :
    (∃ answer, (life.call c).2 = .ok answer) ↔ life.Admits c := by
  have hanswered := call_answered life c
  generalize life.call c = result at hanswered
  cases hanswered with
  | refused why =>
    refine ⟨fun ⟨_, hanswer⟩ => (nomatch hanswer), fun hadmits => ?_⟩
    exact absurd hadmits (why.not_admits h)
  | launched now live idle =>
    exact ⟨fun _ => (admits_launch_iff h now).mpr ⟨live, idle⟩, fun _ => ⟨_, rfl⟩⟩
  | succeeded _ opened | tolerated _ opened | givenUp _ opened | closedLate _ opened =>
    exact ⟨fun _ => opened, fun _ => ⟨_, rfl⟩⟩

theorem call_eq_error_iff (h : life.Coherent) (c : Call) (refusal : TransitionError) :
    (life.call c).2 = .error refusal ↔ life.Refuses c refusal := by
  have hok := call_eq_ok_iff h c
  have hanswered := call_answered life c
  generalize life.call c = result at hok hanswered
  cases hanswered with
  | refused why =>
    refine ⟨fun herror => ?_, fun why' => by rw [why.unique why' h]⟩
    cases herror
    exact why
  | launched | succeeded | tolerated | givenUp | closedLate =>
    refine ⟨fun herror => (nomatch herror), fun why => ?_⟩
    exact absurd (hok.mp ⟨_, rfl⟩) (why.not_admits h)

theorem call_refused (hrefused : (life.call c).2 = .error refusal) : (life.call c).1 = life := by
  have hanswered := call_answered life c
  generalize life.call c = result at hrefused hanswered
  cases hanswered with
  | refused why => rfl
  | launched | succeeded | tolerated | givenUp | closedLate => cases hrefused

theorem call_spec (life : Lifecycle) (c : Call) : (life.call c).1.spec = life.spec := by
  have hanswered := call_answered life c
  generalize life.call c = result at hanswered
  cases hanswered <;> rfl

theorem after_spec (life : Lifecycle) (calls : List Call) :
    (life.after calls).spec = life.spec := by
  induction calls generalizing life with
  | nil => rfl
  | cons c rest ih => exact (ih _).trans (call_spec life c)

/-! ## What is counted -/

/-- The failed runs among the given attempts. -/
def failedAmong (life : Lifecycle) (ids : List AttemptId) : Nat :=
  life.runs.countP fun run => run.state = .failed ∧ run.id ∈ ids

/-- The failures that count are the failed runs that a completion before the decision
closed. -/
structure Counted (life : Lifecycle) (completed : List AttemptId) : Prop where
  coherent : life.Coherent
  failures : life.failures.toNat = life.failedAmong completed
  closed : ∀ id ∈ completed, ∃ run ∈ life.runs, run.id = id ∧ run.isOpen = false

section Counting

variable {completed completed' : List AttemptId} {new : Lifecycle}

/-- The attempt in flight was not completed yet. -/
theorem Counted.fresh (h : life.Counted completed) (hopen : life.openAttempt? = some index) :
    ⟨life.name, index⟩ ∉ completed := by
  intro hmem
  obtain ⟨earlier, last, hflight⟩ := h.coherent.inFlight hopen
  obtain ⟨run, hrun, hid, hclosed⟩ := h.closed _ hmem
  have hlast : last ∈ life.runs := by
    rw [hflight.runs]
    exact List.mem_append_right _ (List.mem_singleton_self last)
  have hsame := List.inj_on_of_nodup_map h.coherent.nodup_ids hrun hlast (hid.trans hflight.id.symm)
  rw [hsame, hflight.isOpen] at hclosed
  cases hclosed

/-- Closing the open run counts if it failed and is among the completed ones. -/
theorem Coherent.failedAmong_closed (h : life.Coherent) (hopen : life.openAttempt? = some index)
    (hruns : new.runs = life.closedRuns report)
    (hothers : ∀ id, id ≠ ⟨life.name, index⟩ → (id ∈ completed' ↔ id ∈ completed)) :
    new.failedAmong completed' = life.failedAmong completed +
      if report.outcome.isSuccess = false ∧ ⟨life.name, index⟩ ∈ completed' then 1 else 0 := by
  obtain ⟨earlier, last, hflight⟩ := h.inFlight hopen
  have hnodup := h.nodup_ids
  rw [hflight.runs, List.map_append, List.map_singleton, hflight.id] at hnodup
  have hearlier : ∀ run ∈ earlier, (run.state = .failed ∧ run.id ∈ completed') ↔
      (run.state = .failed ∧ run.id ∈ completed) := by
    intro run hrun
    have hne : run.id ≠ ⟨life.name, index⟩ := fun heq =>
      (List.nodup_append'.mp hnodup).2.2 (List.mem_map_of_mem hrun) (by simp [heq])
    rw [hothers run.id hne]
  have hrunning : last.state = .running := (Run.isOpen_iff last).mp hflight.isOpen
  have hcount : earlier.countP (fun run => run.state = .failed ∧ run.id ∈ completed') =
      earlier.countP (fun run => run.state = .failed ∧ run.id ∈ completed) :=
    List.countP_congr fun run hrun => by simpa only [decide_eq_true_eq] using hearlier run hrun
  rw [failedAmong, failedAmong, hruns, hflight.closedRuns, hflight.runs, List.countP_append,
    List.countP_append, hcount]
  simp [hrunning, Outcome.runState_eq_failed, hflight.id]

/-- Closing the open run keeps the count, if the failures go with it. -/
theorem Counted.closing (h : life.Counted completed) (hopen : life.openAttempt? = some index)
    (hnew : new.Coherent) (hruns : new.runs = life.closedRuns report)
    (hcompleted : ∀ id, id ∈ completed' → id ∈ completed ∨ id = ⟨life.name, index⟩)
    (hkept : ∀ id ∈ completed, id ∈ completed')
    (hfailures : new.failures.toNat = life.failures.toNat +
      if report.outcome.isSuccess = false ∧ ⟨life.name, index⟩ ∈ completed' then 1 else 0) :
    new.Counted completed' where
  coherent := hnew
  failures := by
    have hothers : ∀ id, id ≠ ⟨life.name, index⟩ → (id ∈ completed' ↔ id ∈ completed) :=
      fun id hne => ⟨fun hmem => (hcompleted id hmem).resolve_right hne, hkept id⟩
    rw [hfailures, h.failures, h.coherent.failedAmong_closed hopen hruns hothers]
  closed := by
    obtain ⟨earlier, last, hflight⟩ := h.coherent.inFlight hopen
    rw [hruns, hflight.closedRuns]
    intro id hmem
    rcases hcompleted id hmem with hold | rfl
    · obtain ⟨run, hrun, hid, hclosed⟩ := h.closed id hold
      rw [hflight.runs] at hrun
      rcases List.mem_append.mp hrun with hrun | hrun
      · exact ⟨run, List.mem_append_left _ hrun, hid, hclosed⟩
      · rw [List.mem_singleton.mp hrun, hflight.isOpen] at hclosed
        cases hclosed
    · exact ⟨_, List.mem_append_right _ (List.mem_singleton_self _), hflight.id, rfl⟩

theorem Counted.completing (h : life.Counted completed) (hopen : life.openAttempt? = some index)
    (hnew : new.Coherent) (hruns : new.runs = life.closedRuns report)
    (hfailures : new.failures.toNat =
      life.failures.toNat + if report.outcome.isSuccess = false then 1 else 0) :
    new.Counted (completed ++ [⟨life.name, index⟩]) :=
  h.closing hopen hnew hruns (fun _ => by simp) (fun _ => List.mem_append_left _)
    (by simpa using hfailures)

theorem Counted.opened (h : life.Counted completed) (now : Instant)
    (hnew : (life.opened now).Coherent) : (life.opened now).Counted completed where
  coherent := hnew
  failures := by
    rw [opened_failures, h.failures, failedAmong, failedAmong, Lifecycle.opened,
      List.countP_append]
    simp [Run.launched, Run.state]
  closed id hmem := by
    obtain ⟨run, hrun, hid, hclosed⟩ := h.closed id hmem
    exact ⟨run, List.mem_append_left _ hrun, hid, hclosed⟩

theorem Counted.answered {result : Lifecycle × Except TransitionError Answer}
    (h : life.Counted completed) (answered : life.Answered c result) :
    result.1.Counted (completed ++ completedBy result.2) := by
  have hnew := answered.coherent h.coherent
  cases answered with
  | refused why => simpa [completedBy] using h
  | launched now live idle => simpa [completedBy] using h.opened now hnew
  | closedLate report opened =>
    have hlate : (life.closedLate report).Counted completed :=
      h.closing opened hnew rfl (fun _ => Or.inl) (fun _ hmem => hmem) (by simp [h.fresh opened])
    simpa [completedBy] using hlate
  | succeeded policy opened success =>
    exact h.completing opened hnew rfl (by simp [success])
  | tolerated policy opened failure left =>
    exact h.completing opened hnew rfl (by simp [failure, h.coherent.failures_succ opened])
  | givenUp policy opened failure last =>
    exact h.completing opened hnew rfl (by simp [failure, h.coherent.failures_succ opened])

theorem completedIds_cons (life : Lifecycle) (c : Call) (rest : List Call) :
    life.completedIds (c :: rest) =
      completedBy (life.call c).2 ++ (life.call c).1.completedIds rest := by
  simp [completedIds, replies]

theorem Counted.after (h : life.Counted completed) (calls : List Call) :
    (life.after calls).Counted (completed ++ life.completedIds calls) := by
  induction calls generalizing life completed with
  | nil => simpa [completedIds, replies, after] using h
  | cons c rest ih =>
    rw [completedIds_cons, ← List.append_assoc]
    exact ih (h.answered (call_answered life c))

theorem counted_of_spec (spec : ProcessSpec) : Counted { spec } [] where
  coherent := coherent_of_spec spec
  failures := rfl
  closed _ hmem := absurd hmem List.not_mem_nil

end Counting

theorem limit_eq_max (life : Lifecycle) : life.limit = max 1 life.spec.maxFailures.toNat := by
  rw [limit, failureLimit]
  split
  · next hzero => simp [hzero]
  · next hne =>
    have hpos : life.spec.maxFailures.toNat ≠ 0 := fun hzero => hne (UInt32.toNat_inj.mp hzero)
    omega

theorem Coherent.failures_le (h : life.Coherent) : life.failures.toNat ≤ life.limit := by
  cases h.stage with
  | pending _ _ failures => simp [failures]
  | launched earlier last runs failed below ending =>
    cases ending with
    | inFlight _ _ failures | succeeded _ _ failures | closedLate _ _ failures =>
      exact failures ▸ Nat.le_of_lt below
    | waiting _ _ failures _ | givenUp _ _ failures _ => exact failures ▸ below

/-! ## Retries -/

/-- While nothing is open the only call that fits is the next launch. -/
theorem launch_after (hidle : life.openAttempt? = none) {launch : Transition}
    (hnext : life.nextLaunch? calls = some launch) : launch.id = life.nextId := by
  induction calls with
  | nil => cases hnext
  | cons c rest ih =>
    have hanswered := call_answered life c
    rw [nextLaunch?, replies, List.findSome?_cons] at hnext
    generalize life.call c = result at hnext hanswered
    cases hanswered with
    | refused why => exact ih hnext
    | launched now live idle =>
      cases hnext
      rfl
    | succeeded _ opened | tolerated _ opened | givenUp _ opened | closedLate _ opened =>
      rw [hidle] at opened
      cases opened

theorem call_retry (h : life.Coherent) {transition : Transition} {next : UInt32} {delay : Span}
    (hretry : (life.call c).2 = .ok { transition, verdict := some (.retry next delay) })
    {launch : Transition} (hnext : (life.call c).1.nextLaunch? calls = some launch) :
    launch.id = ⟨life.name, next⟩ := by
  have hanswered := call_answered life c
  generalize life.call c = result at hretry hnext hanswered
  cases hanswered with
  | refused | launched | succeeded | givenUp | closedLate => cases hretry
  | tolerated policy opened failure left =>
    cases hretry
    rw [launch_after (h.openAttempt?_of_closed opened rfl) hnext, h.nextId_tolerated _ opened]

/-! ## Any calls -/

/-- After any calls whatever, a lifecycle accepts a call exactly if it fits, and otherwise
stays as it is and answers which of the state and the open attempt does not fit. What it
counts are the runs that a completion before the decision closed as failed, and they are
at most as many as the process may fail. If it answers that the attempt is to be tried
again under a number, the next launch that it accepts has this number. -/
theorem calls_exact (spec : ProcessSpec) (calls : List Call) :
    let life := ({ spec } : Lifecycle).after calls
    (∀ c, (∃ answer, (life.call c).2 = .ok answer) ↔ life.Admits c) ∧
    (∀ c refusal, (life.call c).2 = .error refusal ↔ life.Refuses c refusal) ∧
    (∀ c refusal, (life.call c).2 = .error refusal → (life.call c).1 = life) ∧
    life.failures.toNat = life.failedAmong (({ spec } : Lifecycle).completedIds calls) ∧
    life.failures.toNat ≤ max 1 spec.maxFailures.toNat ∧
    ∀ c transition next delay,
      (life.call c).2 = .ok { transition, verdict := some (.retry next delay) } →
      ∀ more launch, (life.call c).1.nextLaunch? more = some launch →
        launch.id = ⟨spec.name, next⟩ := by
  intro life
  have hcounted := (counted_of_spec spec).after calls
  have hspec : life.spec = spec := after_spec _ calls
  have hlimit := life.limit_eq_max
  rw [hspec] at hlimit
  refine ⟨call_eq_ok_iff hcounted.coherent, call_eq_error_iff hcounted.coherent,
    fun _ _ => call_refused, hcounted.failures, hlimit ▸ hcounted.coherent.failures_le, ?_⟩
  intro c transition next delay hretry more launch hnext
  rw [call_retry hcounted.coherent hretry hnext, name, hspec]

/-- A completion of the seventh attempt of `first` is refused while the first one is in
flight. That one fails, is reported again to no avail, and is followed by the second. -/
theorem calls_exact_retried :
    let failure : Report := ⟨.noExitCode, ⟨0⟩, ⟨1⟩⟩
    let fails : Call := .complete 0 failure .observe
    let foreign : Call := .completeLate 7 failure
    let more : List Call := [fails, .launch ⟨2⟩]
    let second : Transition := .launch ⟨"first", 1⟩ ⟨2⟩
    let life := ({ spec := ⟨"first", "true", 2, .zero⟩ } : Lifecycle).after [.launch ⟨0⟩]
    (life.call foreign).2 = .error (.staleAttempt "first" 0 7) ∧ (life.call foreign).1 = life ∧
      (life.call fails).2 =
        .ok { transition := .closing ⟨"first", 0⟩ failure, verdict := some (.retry 1 .zero) } ∧
      (life.call fails).1.nextLaunch? more = some second ∧ second.id = ⟨"first", 1⟩ := by
  intro failure fails foreign more second life
  have hstale : (life.call foreign).2 = .error (.staleAttempt "first" 0 7) := by rfl
  have hretry : (life.call fails).2 =
      .ok { transition := .closing ⟨"first", 0⟩ failure, verdict := some (.retry 1 .zero) } := by
    rfl
  have hsecond : (life.call fails).1.nextLaunch? more = some second := by rfl
  obtain ⟨_, _, hunchanged, _, _, hnumbered⟩ :=
    calls_exact ⟨"first", "true", 2, .zero⟩ [.launch ⟨0⟩]
  exact ⟨hstale, hunchanged foreign _ hstale, hretry, hsecond,
    hnumbered fails _ 1 .zero hretry more second hsecond⟩

end Lifecycle

end Overseer
