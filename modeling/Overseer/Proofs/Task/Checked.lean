import Overseer.Task.Basic
import Overseer.Proofs.Precedence.Order
import Mathlib.Logic.Relation

/-!
# What a checked task promises

The facts behind `TaskSpec.checked`, in the form in which schedules use them: the
names are distinct, every process may fail at least once, and the precedence
agrees with the declared constraints. `TaskSpec.rank` numbers the processes so
that each constraint leads to a higher number; every induction over the
predecessors of a process is an induction over it.
-/

namespace Overseer

theorem TaskDraft.processFault?_eq_none {seen : List ProcessName} {processes : List ProcessSpec}
    (h : processFault? seen processes = none) :
    (processes.map (·.name)).Nodup ∧ (∀ name ∈ seen, name ∉ processes.map (·.name)) ∧
      ∀ spec ∈ processes, spec.maxFailures ≠ 0 := by
  induction processes generalizing seen with
  | nil => simp
  | cons spec rest ih =>
    simp only [processFault?] at h
    split at h
    · cases h
    · next hseen =>
      split at h
      · cases h
      · next hzero =>
        obtain ⟨hnodup, hfresh, hpos⟩ := ih h
        refine ⟨?_, ?_, ?_⟩
        · rw [List.map_cons, List.nodup_cons]
          exact ⟨hfresh spec.name List.mem_cons_self, hnodup⟩
        · intro name hname hmem
          rcases List.mem_cons.mp hmem with rfl | hmem
          · exact hseen hname
          · exact hfresh name (List.mem_cons_of_mem _ hname) hmem
        · intro other hother
          rcases List.mem_cons.mp hother with rfl | hother
          · exact hzero
          · exact hpos other hother

theorem TaskDraft.processFault?_of_distinct {seen : List ProcessName}
    {processes : List ProcessSpec} (hdistinct : (processes.map (·.name)).Nodup)
    (hfresh : ∀ name ∈ seen, name ∉ processes.map (·.name))
    (hfallible : ∀ process ∈ processes, process.maxFailures ≠ 0) :
    processFault? seen processes = none := by
  induction processes generalizing seen with
  | nil => rfl
  | cons process rest ih =>
    rw [List.map_cons, List.nodup_cons] at hdistinct
    have hseen : process.name ∉ seen := fun hmem =>
      hfresh _ hmem (List.mem_map_of_mem List.mem_cons_self)
    rw [processFault?, if_neg hseen, if_neg (hfallible process List.mem_cons_self)]
    refine ih hdistinct.2 (fun name hname => ?_) fun other hother =>
      hfallible other (List.mem_cons_of_mem _ hother)
    rcases List.mem_cons.mp hname with rfl | hname
    · exact hdistinct.1
    · exact fun hmem => hfresh name hname (List.mem_cons_of_mem _ hmem)

/-- The stages of the check of a task that has processes. -/
theorem TaskDraft.check_of_processes {draft : TaskDraft} (h : draft.processes ≠ []) :
    draft.check = (processFault? [] draft.processes).elim
      ((Precedence.ofConstraints draft.processNames draft.constraints).mapError .precedence)
      .error := by
  simp only [check, List.isEmpty_iff, if_neg h]
  cases processFault? [] draft.processes with
  | some fault => rfl
  | none =>
    cases Precedence.ofConstraints draft.processNames draft.constraints with
    | ok precedence => rfl
    | error cause => rfl

theorem TaskDraft.check_eq_ok {draft : TaskDraft} {precedence : Precedence}
    (h : draft.check = .ok precedence) :
    processFault? [] draft.processes = none ∧
      Precedence.ofConstraints draft.processNames draft.constraints = .ok precedence := by
  unfold check at h
  split at h
  · cases h
  · split at h
    · cases h
    · next hfault =>
      split at h
      · next hprec => cases h; exact ⟨hfault, hprec⟩
      · cases h

theorem TaskSpec.ofDraft_of_ok {draft : TaskDraft} {precedence : Precedence}
    (h : draft.check = .ok precedence) : ofDraft draft = .ok ⟨draft, precedence, h⟩ := by
  unfold ofDraft
  split
  · next found hfound =>
    obtain rfl := Except.ok.inj (hfound.symm.trans h)
    rfl
  · next fault hfault => cases hfault.symm.trans h

theorem TaskSpec.ofDraft_of_error {draft : TaskDraft} {fault : TaskError}
    (h : draft.check = .error fault) : ofDraft draft = .error fault := by
  unfold ofDraft
  split
  · next found hfound => cases hfound.symm.trans h
  · next other hother => rw [Except.error.inj (hother.symm.trans h)]

namespace TaskSpec

/-! ## Processes -/

theorem nodup_processNames (task : TaskSpec) : task.processNames.Nodup :=
  (TaskDraft.processFault?_eq_none (TaskDraft.check_eq_ok task.checked).1).1

theorem maxFailures_ne_zero (task : TaskSpec) {spec : ProcessSpec} (h : spec ∈ task.processes) :
    spec.maxFailures ≠ 0 :=
  (TaskDraft.processFault?_eq_none (TaskDraft.check_eq_ok task.checked).1).2.2 spec h

/-! ## Constraints -/

/-- `p` must have succeeded before `q` may start. -/
def Requires (task : TaskSpec) (p q : ProcessName) : Prop := ⟨p, q⟩ ∈ task.constraints

/-- `p` stands before `q` along a path of constraints. -/
def Precedes (task : TaskSpec) : ProcessName → ProcessName → Prop :=
  Relation.TransGen task.Requires

/-- Some process waits for `p`. -/
def HasDependents (task : TaskSpec) (p : ProcessName) : Prop := ∃ q, task.Requires p q

instance (task : TaskSpec) (p q : ProcessName) : Decidable (task.Requires p q) :=
  inferInstanceAs (Decidable (_ ∈ _))

theorem precedence_sound (task : TaskSpec) : task.precedence.Sound task.processNames :=
  (Precedence.ofConstraints_sound (TaskDraft.check_eq_ok task.checked).2).1

theorem nodup_order (task : TaskSpec) : task.precedence.order.Nodup :=
  Precedence.ofConstraints_nodup (TaskDraft.check_eq_ok task.checked).2

theorem mem_edges (task : TaskSpec) {p q : ProcessName} :
    ⟨p, q⟩ ∈ task.precedence.edges ↔ task.Requires p q := by
  rw [(Precedence.ofConstraints_sound (TaskDraft.check_eq_ok task.checked).2).2,
    List.mem_eraseDups]
  rfl

theorem mem_dependenciesOf (task : TaskSpec) {p q : ProcessName} :
    p ∈ task.precedence.dependenciesOf q ↔ task.Requires p q := by
  rw [Precedence.dependenciesOf, mem_predecessorsIn, mem_edges]

theorem mem_dependentsOf (task : TaskSpec) {p q : ProcessName} :
    q ∈ task.precedence.dependentsOf p ↔ task.Requires p q := by
  rw [Precedence.dependentsOf, mem_successorsIn, mem_edges]

theorem isPredecessor_iff (task : TaskSpec) {p : ProcessName} :
    task.precedence.isPredecessor p = true ↔ task.HasDependents p := by
  simp only [Precedence.isPredecessor, Bool.not_eq_true', List.isEmpty_eq_false_iff_exists_mem,
    mem_dependentsOf, HasDependents]

theorem declared_of_requires (task : TaskSpec) {p q : ProcessName} (h : task.Requires p q) :
    p ∈ task.processNames ∧ q ∈ task.processNames :=
  task.precedence_sound.declared ⟨p, q⟩ (task.mem_edges.mpr h)

/-! ## Ranks -/

/-- The place of a process in the launch order. -/
def rank (task : TaskSpec) (p : ProcessName) : Nat := task.precedence.order.idxOf p

theorem rank_lt_of_requires (task : TaskSpec) {p q : ProcessName} (h : task.Requires p q) :
    task.rank p < task.rank q :=
  task.precedence_sound.forward ⟨p, q⟩ (task.mem_edges.mpr h)

end TaskSpec

/-! ## Small tasks -/

/-- `first` before `second`, one at a time; `first` may fail once. -/
def TaskDraft.pair : TaskDraft where
  name := "pair"
  resources := {}
  maxFailures := 1
  maxConcurrency := 1
  processes := [⟨"first", "true", 2, .zero⟩, ⟨"second", "true", 1, .zero⟩]
  constraints := [⟨"first", "second"⟩]

theorem TaskDraft.check_pair :
    TaskDraft.pair.check = .ok ⟨["first", "second"], [⟨"first", "second"⟩]⟩ := by
  have horder : finishOrder ["first", "second"] [⟨"first", "second"⟩] = ["first", "second"] := by
    simp [finishOrder, depthFirst, successorsIn]
  simp [check, pair, processFault?, processNames, Precedence.ofConstraints, Constraint.fault?,
    launchOrder, horder, latePredecessor?, predecessorsIn, List.eraseDups_cons]

def TaskSpec.pair : TaskSpec := ⟨TaskDraft.pair, _, TaskDraft.check_pair⟩

/-- `first` and `second`, in any order but one at a time. -/
def TaskDraft.unordered : TaskDraft := { TaskDraft.pair with constraints := [] }

theorem TaskDraft.check_unordered :
    TaskDraft.unordered.check = .ok ⟨["second", "first"], []⟩ := by
  have horder : finishOrder ["first", "second"] [] = ["second", "first"] := by
    simp [finishOrder, depthFirst, successorsIn]
  simp [check, unordered, pair, processFault?, processNames, Precedence.ofConstraints,
    launchOrder, horder, latePredecessor?, predecessorsIn, List.eraseDups_cons]

def TaskSpec.unordered : TaskSpec := ⟨TaskDraft.unordered, _, TaskDraft.check_unordered⟩

/-- `top` before `left` and `right`, and both of these before `bottom`; no limits. -/
def TaskDraft.diamond : TaskDraft where
  name := "diamond"
  resources := {}
  maxFailures := 0
  maxConcurrency := 0
  processes := ["top", "left", "right", "bottom"].map (⟨·, "true", 1, .zero⟩)
  constraints := [⟨"top", "left"⟩, ⟨"top", "right"⟩, ⟨"left", "bottom"⟩, ⟨"right", "bottom"⟩]

theorem TaskDraft.check_diamond :
    TaskDraft.diamond.check = .ok ⟨["top", "left", "right", "bottom"],
      [⟨"top", "left"⟩, ⟨"top", "right"⟩, ⟨"left", "bottom"⟩, ⟨"right", "bottom"⟩]⟩ := by
  have horder : finishOrder ["top", "left", "right", "bottom"]
      [⟨"top", "left"⟩, ⟨"top", "right"⟩, ⟨"left", "bottom"⟩, ⟨"right", "bottom"⟩] =
      ["top", "left", "right", "bottom"] := by
    simp [finishOrder, depthFirst, successorsIn]
  simp [check, diamond, processFault?, processNames, Precedence.ofConstraints, Constraint.fault?,
    launchOrder, horder, latePredecessor?, predecessorsIn, List.eraseDups_cons]

def TaskSpec.diamond : TaskSpec := ⟨TaskDraft.diamond, _, TaskDraft.check_diamond⟩

end Overseer
