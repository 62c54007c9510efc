import Overseer.Proofs.Precedence.Acceptance
import Overseer.Proofs.Task.Checked

/-!
# Which process is blamed for a cycle

Constraints that have no launch order are refused with a message that names one
process. That process is on a cycle itself; one that only comes before a cycle, or
after it, is never named. The message tells whether the process is ordered after
itself at once or by way of others, and in the second case all constraints are sound
on their own.

Results:
1. `Cyclic.exists_other`: a cycle goes through another process, or is a single constraint.
2. `ofConstraints_blames`: the refusal of constraints.
3. `cycle_blamed`: the refusal of constraints and of tasks.
-/

namespace Overseer

variable {names : List ProcessName} {constraints : List Constraint} {p : ProcessName}

/-- A process on a cycle that is no self-constraint shares it with another. -/
theorem Cyclic.exists_other (h : Cyclic constraints p) (hself : ⟨p, p⟩ ∉ constraints) :
    ∃ q, q ≠ p ∧ Precedes constraints p q ∧ Precedes constraints q p := by
  rcases Relation.TransGen.head'_iff.mp h with ⟨q, hedge, hback⟩
  have hne : q ≠ p := by
    rintro rfl
    exact hself hedge
  rcases Relation.reflTransGen_iff_eq_or_transGen.mp hback with heq | hpath
  · exact absurd heq.symm hne
  · exact ⟨q, hne, .single hedge, hpath⟩

/-- The fault is told as a cycle. -/
def PrecedenceError.isCyclic : PrecedenceError → Bool
  | unknownProcess .. => false
  | selfOrdered _ | cycle _ => true

/-- The message names a process on a cycle of the constraints. -/
inductive BlamesCycle (names : List ProcessName) (constraints : List Constraint)
    (message : String) : Prop
  | itself (p : ProcessName)
      (told : message = "Cyclic ordering constraints: process '" ++ p ++
        "' cannot be ordered after itself")
      (edge : ⟨p, p⟩ ∈ constraints)
  /-- The cycle goes through another process, and no constraint has a fault of its own. -/
  | throughOthers (p q : ProcessName)
      (told : message =
        "Cyclic ordering constraints: cycle detected in ordering constraints involving process '" ++
          p ++ "'")
      (other : q ≠ p) (onward : Precedes constraints p q) (back : Precedes constraints q p)
      (declared : ∀ constraint ∈ constraints,
        constraint.predecessor ∈ names ∧ constraint.successor ∈ names)
      (distinct : ∀ constraint ∈ constraints, constraint.predecessor ≠ constraint.successor)

/-- A constraint is a cycle of its own only if it orders a process after itself. -/
theorem Constraint.of_fault?_cyclic {constraint : Constraint} {fault : PrecedenceError}
    (h : constraint.fault? names = some fault) (hcyclic : fault.isCyclic = true) :
    ∃ p, fault = .selfOrdered p ∧ constraint = ⟨p, p⟩ := by
  unfold Constraint.fault? at h
  split at h
  · cases h
    cases hcyclic
  · split at h
    · cases h
      cases hcyclic
    · split at h
      · next hsame =>
        refine ⟨constraint.predecessor, (Option.some.inj h).symm, ?_⟩
        exact congrArg (Constraint.mk constraint.predecessor) hsame.symm
      · cases h

namespace Precedence

/-- Constraints are refused for a fault of one of them, or for a cycle. -/
theorem ofConstraints_blames {fault : PrecedenceError}
    (h : ofConstraints names constraints = .error fault) (hcyclic : fault.isCyclic = true) :
    BlamesCycle names constraints fault.message := by
  cases hfault : constraints.findSome? (·.fault? names) with
  | some found =>
    obtain rfl : found = fault := by simpa [ofConstraints, hfault] using h
    obtain ⟨constraint, hmem, hone⟩ := List.exists_of_findSome?_eq_some hfault
    obtain ⟨p, rfl, rfl⟩ := Constraint.of_fault?_cyclic hone hcyclic
    exact .itself p rfl hmem
  | none =>
    rcases ofConstraints_cases hfault with ⟨precedence, haccepted⟩ | ⟨p, hrefused, hcycle⟩
    · rw [haccepted] at h
      cases h
    · obtain rfl := Except.error.inj (hrefused.symm.trans h)
      have hsound := fun constraint hmem =>
        Constraint.fault?_eq_none (List.findSome?_eq_none_iff.mp hfault constraint hmem)
      have hself : ⟨p, p⟩ ∉ constraints := fun hmem => (hsound _ hmem).2.2 rfl
      obtain ⟨q, hne, honward, hback⟩ := hcycle.exists_other hself
      exact .throughOthers p q rfl hne honward hback
        (fun constraint hmem => ⟨(hsound constraint hmem).1, (hsound constraint hmem).2.1⟩)
        fun constraint hmem => (hsound constraint hmem).2.2

end Precedence

namespace TaskDraft

theorem processFault?_ne_precedence {seen : List ProcessName} {processes : List ProcessSpec}
    {cause : PrecedenceError} : processFault? seen processes ≠ some (.precedence cause) := by
  induction processes generalizing seen with
  | nil => simp [processFault?]
  | cons process rest ih =>
    unfold processFault?
    split
    · simp
    · split
      · simp
      · exact ih

/-- A task is refused for its precedence only if its constraints are. -/
theorem ofConstraints_of_ofDraft {draft : TaskDraft} {cause : PrecedenceError}
    (h : TaskSpec.ofDraft draft = .error (.precedence cause)) :
    Precedence.ofConstraints draft.processNames draft.constraints = .error cause := by
  have hcheck : draft.check = .error (.precedence cause) := by
    cases hcheck : draft.check with
    | ok precedence => cases (TaskSpec.ofDraft_of_ok hcheck).symm.trans h
    | error fault =>
      rw [Except.error.inj ((TaskSpec.ofDraft_of_error hcheck).symm.trans h)]
  have hsome : draft.processes ≠ [] := by
    intro hnone
    simp [check, hnone] at hcheck
  rw [check_of_processes hsome] at hcheck
  cases hfault : processFault? [] draft.processes with
  | some fault =>
    rw [hfault] at hcheck
    exact absurd (hfault.trans (congrArg some (Except.error.inj hcheck)))
      processFault?_ne_precedence
  | none =>
    rw [hfault, Option.elim_none] at hcheck
    cases hresult : Precedence.ofConstraints draft.processNames draft.constraints with
    | ok precedence =>
      rw [hresult] at hcheck
      cases hcheck
    | error other =>
      rw [hresult] at hcheck
      cases hcheck
      rfl

end TaskDraft

/-- When constraints are refused as cyclic, alone or as those of a task, the message
names a process that lies on a cycle of them. -/
theorem cycle_blamed :
    (∀ names constraints fault, Precedence.ofConstraints names constraints = .error fault →
      fault.isCyclic = true → BlamesCycle names constraints fault.message) ∧
    ∀ (draft : TaskDraft) cause, TaskSpec.ofDraft draft = .error (.precedence cause) →
      cause.isCyclic = true →
        BlamesCycle draft.processNames draft.constraints (TaskError.precedence cause).message :=
  ⟨fun _ _ _ => Precedence.ofConstraints_blames, fun _ _ hrefused =>
    Precedence.ofConstraints_blames (TaskDraft.ofConstraints_of_ofDraft hrefused)⟩

/-- Of four processes in a row, of which the middle ones wait for each other, neither
the first nor the last is blamed; a process that waits for itself is. -/
theorem cycle_blamed_middle :
    (Precedence.ofConstraints ["up", "left", "right", "down"]
        [⟨"up", "left"⟩, ⟨"left", "right"⟩, ⟨"right", "left"⟩, ⟨"right", "down"⟩] =
      .error (.cycle "right") ∧
    BlamesCycle ["up", "left", "right", "down"]
        [⟨"up", "left"⟩, ⟨"left", "right"⟩, ⟨"right", "left"⟩, ⟨"right", "down"⟩]
        (PrecedenceError.cycle "right").message) ∧
    (TaskSpec.ofDraft { TaskDraft.pair with constraints := [⟨"second", "second"⟩] } =
      .error (.precedence (.selfOrdered "second")) ∧
    BlamesCycle ["first", "second"] [⟨"second", "second"⟩]
        (TaskError.precedence (.selfOrdered "second")).message) := by
  have hrefused : Precedence.ofConstraints ["up", "left", "right", "down"]
      [⟨"up", "left"⟩, ⟨"left", "right"⟩, ⟨"right", "left"⟩, ⟨"right", "down"⟩] =
      .error (.cycle "right") := by
    have horder : finishOrder ["up", "left", "right", "down"]
        [⟨"up", "left"⟩, ⟨"left", "right"⟩, ⟨"right", "left"⟩, ⟨"right", "down"⟩] =
        ["up", "left", "right", "down"] := by
      simp [finishOrder, depthFirst, successorsIn]
    simp [Precedence.ofConstraints, Constraint.fault?, launchOrder, horder, latePredecessor?,
      predecessorsIn, List.eraseDups_cons]
  have hself : TaskSpec.ofDraft { TaskDraft.pair with constraints := [⟨"second", "second"⟩] } =
      .error (.precedence (.selfOrdered "second")) := TaskSpec.ofDraft_of_error (by decide)
  exact ⟨⟨hrefused, cycle_blamed.1 _ _ _ hrefused rfl⟩, hself, cycle_blamed.2 _ _ hself rfl⟩

end Overseer
