import Overseer.TaskFile.Basic
import Overseer.Proofs.Precedence.Arrangement
import Overseer.Proofs.Task.Checked

/-!
# Which task files are valid

A description is well-formed if each of its sections is usable by itself and its
processes can be arranged so that every order is kept. `validate` accepts exactly the
well-formed descriptions. `TaskFileDraft.faults` lists every check that a description
violates, in the order in which they are made; a description without any such fault
that is still refused has a process that comes after itself.

Results:
1. `TaskFileDraft.validate_of_fault`: the first fault is reported.
2. `TaskFileDraft.validate_cases`: descriptions without a fault.
3. `TaskFileDraft.faults_eq_nil`: what it means to be without a fault.
4. `TaskFileDraft.validate_correct`: what is accepted, what is kept of it, and what is
   reported otherwise.
-/

namespace Overseer

/-! ## Violated checks -/

/-- The fault of a check, if the check is violated. -/
def violation {ε : Type} (violated : Prop) [Decidable violated] (fault : ε) : List ε :=
  if violated then [fault] else []

@[simp] theorem violation_eq_nil {ε : Type} {violated : Prop} [Decidable violated] {fault : ε} :
    violation violated fault = [] ↔ ¬ violated := by
  unfold violation
  split <;> simp_all

@[simp] theorem head?_violation {ε : Type} {violated : Prop} [Decidable violated] {fault : ε} :
    (violation violated fault).head? = if violated then some fault else none := by
  unfold violation
  split <;> rfl

/-- The amount of processor time is a number, and not below zero. -/
def Resources.Usable (resources : Resources) : Prop :=
  resources.cpu.isFinite = true ∧ ¬ resources.cpu < 0.0

instance (resources : Resources) : Decidable resources.Usable :=
  inferInstanceAs (Decidable (_ ∧ _))

/-- What is wrong with a constraint on its own. -/
def Constraint.faults (names : List ProcessName) (constraint : Constraint) :
    List PrecedenceError :=
  violation (constraint.predecessor ∉ names)
      (.unknownProcess constraint.predecessor constraint) ++
    violation (constraint.successor ∉ names)
      (.unknownProcess constraint.successor constraint) ++
    violation (constraint.predecessor = constraint.successor)
      (.selfOrdered constraint.predecessor)

theorem Constraint.fault?_eq_head? (names : List ProcessName) (constraint : Constraint) :
    constraint.fault? names = (constraint.faults names).head? := by
  simp only [fault?, faults, List.head?_append, head?_violation]
  split_ifs <;> rfl

/-- What is wrong with a process after the `earlier` ones: a name that one of them has,
then a limit that allows no failure. -/
def ProcessSpec.faults (earlier : List ProcessSpec) (process : ProcessSpec) : List TaskError :=
  violation (process.name ∈ earlier.map (·.name)) (.duplicateProcess process.name) ++
    violation (process.maxFailures = 0) (.zeroMaxFailures process.name)

/-- The processes of `rest` are checked one after the other; `earlier` stand before them,
and `seen` holds the names of these. -/
theorem TaskDraft.processFault?_eq_head? {seen : List ProcessName} {earlier : List ProcessSpec}
    (hseen : ∀ name, name ∈ seen ↔ name ∈ earlier.map (·.name)) (rest : List ProcessSpec) :
    processFault? seen rest = ((rest.zipIdx earlier.length).flatMap fun (process, place) =>
      process.faults ((earlier ++ rest).take place)).head? := by
  induction rest generalizing seen earlier with
  | nil => rfl
  | cons process rest ih =>
    have hnext := @ih (process.name :: seen) (earlier ++ [process]) (by simp [hseen, or_comm])
    rw [List.length_append, List.length_singleton, List.append_assoc, List.singleton_append]
      at hnext
    rw [processFault?, hnext, List.zipIdx_cons, List.flatMap_cons, List.head?_append]
    dsimp only
    rw [List.take_left, ProcessSpec.faults, List.head?_append, head?_violation, head?_violation]
    simp only [hseen]
    split_ifs <;> rfl

namespace TaskFileDraft

variable {draft : TaskFileDraft} {file : TaskFile} {fault : TaskFileError}

/-- What is wrong with the section `task` and the number of processes. -/
def sectionFaults (draft : TaskFileDraft) : List TaskFileError :=
  violation (Text.trim draft.name = "") .emptyName ++
    violation (draft.processes = []) .noProcesses ++
    violation (¬ draft.resources.Usable) (.unusableCpu draft.resources.cpu)

/-- The orders that are too short, with their positions from one. -/
def orderFaults (draft : TaskFileDraft) : List TaskFileError :=
  (draft.orders.zipIdx 1).flatMap fun (order, position) =>
    violation (order.length < 2) (.shortOrder position order.length)

def processFaults (draft : TaskFileDraft) : List TaskError :=
  draft.processes.zipIdx.flatMap fun (process, place) =>
    process.faults (draft.processes.take place)

def constraintFaults (draft : TaskFileDraft) : List PrecedenceError :=
  draft.task.constraints.flatMap (·.faults draft.task.processNames)

/-- All the checks that a description violates, in the order in which they are made;
only that no process comes after itself is not among them. -/
def faults (draft : TaskFileDraft) : List TaskFileError :=
  draft.sectionFaults ++ draft.orderFaults ++ draft.processFaults.map .task ++
    draft.constraintFaults.map (.task ∘ .precedence)

/-- What makes a description a task file. -/
structure WellFormed (draft : TaskFileDraft) : Prop where
  named : Text.trim draft.name ≠ ""
  inhabited : draft.processes ≠ []
  usable : draft.resources.Usable
  long : ∀ order ∈ draft.orders, 2 ≤ order.length
  distinct : draft.task.processNames.Nodup
  fallible : ∀ process ∈ draft.processes, process.maxFailures ≠ 0
  declared : ∀ order ∈ draft.orders, order ⊆ draft.task.processNames
  /-- The processes can be lined up so that every order is kept. -/
  arranged : ∃ arrangement : List ProcessName, arrangement.Perm draft.task.processNames ∧
    ∀ order ∈ draft.orders, order.Sublist arrangement

/-- What a task file keeps of its description. -/
structure Keeps (draft : TaskFileDraft) (file : TaskFile) : Prop where
  options : file.options = draft.options
  name : file.task.name = draft.name
  resources : file.task.resources = draft.resources
  maxFailures : file.task.maxFailures = draft.maxFailures
  maxConcurrency : file.task.maxConcurrency = draft.maxConcurrency
  processes : file.task.processes = draft.processes
  constraints : file.task.constraints =
    draft.orders.flatMap fun order => order.zipWith Constraint.mk order.tail
  orders : ∀ order ∈ draft.orders, order.Sublist file.task.precedence.order

/-- What a description is refused for: the first check that it violates or, if there
is none, a process that comes after itself. -/
inductive Refused (draft : TaskFileDraft) : TaskFileError → Prop
  | violates {fault : TaskFileError} (first : draft.faults.head? = some fault) :
      Refused draft fault
  | cycle {p : ProcessName} (sound : draft.faults = [])
      (cyclic : Cyclic draft.task.constraints p) : Refused draft (.task (.precedence (.cycle p)))

/-! ## The first fault -/

theorem shortOrder?_eq_head? (position : Nat) (orders : List (List ProcessName)) :
    shortOrder? position orders = ((orders.zipIdx position).flatMap fun (order, position) =>
      violation (order.length < 2) (.shortOrder position order.length)).head? := by
  induction orders generalizing position with
  | nil => rfl
  | cons order rest ih =>
    rw [shortOrder?, ih, List.zipIdx_cons, List.flatMap_cons, List.head?_append, head?_violation]
    split_ifs <;> rfl

theorem fault?_eq_head? (draft : TaskFileDraft) :
    draft.fault? = (draft.sectionFaults ++ draft.orderFaults).head? := by
  have hcpu : (!draft.resources.cpu.isFinite || draft.resources.cpu < 0.0) = true ↔
      ¬ draft.resources.Usable := by
    rw [Resources.Usable, Bool.or_eq_true, Bool.not_eq_true', decide_eq_true_eq, not_and_or,
      not_not, Bool.not_eq_true]
  simp only [fault?, sectionFaults, orderFaults, List.head?_append, head?_violation,
    ← shortOrder?_eq_head?, String.isEmpty_iff, List.isEmpty_iff, hcpu]
  split_ifs <;> rfl

theorem processFault?_eq_head? (draft : TaskFileDraft) :
    TaskDraft.processFault? [] draft.processes = draft.processFaults.head? :=
  @TaskDraft.processFault?_eq_head? [] [] (fun _ => Iff.rfl) draft.processes

theorem constraintFault?_eq_head? (draft : TaskFileDraft) :
    draft.task.constraints.findSome? (·.fault? draft.task.processNames) =
      draft.constraintFaults.head? := by
  rw [constraintFaults, List.head?_flatMap]
  exact congrArg (draft.task.constraints.findSome? ·)
    (funext fun constraint => constraint.fault?_eq_head? _)

/-- The first fault, from those that each stage of the check looks for. -/
theorem head?_faults (draft : TaskFileDraft) :
    draft.faults.head? = (draft.fault?.or
      ((TaskDraft.processFault? [] draft.processes).map .task)).or
        ((draft.task.constraints.findSome? (·.fault? draft.task.processNames)).map
          (.task ∘ .precedence)) := by
  rw [fault?_eq_head?, processFault?_eq_head?, constraintFault?_eq_head?, ← List.head?_map,
    ← List.head?_map, ← List.head?_append, ← List.head?_append]
  rfl

/-! ## Descriptions without a fault -/

theorem sectionFaults_eq_nil : draft.sectionFaults = [] ↔
    Text.trim draft.name ≠ "" ∧ draft.processes ≠ [] ∧ draft.resources.Usable := by
  simp only [sectionFaults, List.append_eq_nil_iff, violation_eq_nil, not_not, and_assoc, ne_eq]

theorem orderFaults_eq_nil : draft.orderFaults = [] ↔ ∀ order ∈ draft.orders, 2 ≤ order.length := by
  simp only [orderFaults, List.flatMap_eq_nil_iff, violation_eq_nil, Prod.forall, Nat.not_lt]
  constructor
  · intro h order horder
    obtain ⟨place, hplace, rfl⟩ := List.mem_iff_getElem.mp horder
    refine h _ (1 + place) (List.mk_add_mem_zipIdx_iff_getElem?.mpr ?_)
    exact List.getElem?_eq_getElem hplace
  · exact fun h order position hmem => h order (List.fst_mem_of_mem_zipIdx hmem)

theorem processFaults_eq_nil : draft.processFaults = [] ↔
    draft.task.processNames.Nodup ∧ ∀ process ∈ draft.processes, process.maxFailures ≠ 0 := by
  rw [← List.head?_eq_none_iff, ← processFault?_eq_head?]
  constructor
  · intro h
    have hfree := TaskDraft.processFault?_eq_none h
    exact ⟨hfree.1, hfree.2.2⟩
  · rintro ⟨hdistinct, hfallible⟩
    exact TaskDraft.processFault?_of_distinct hdistinct (fun _ hmem => nomatch hmem) hfallible

/-- Of two processes with one name that may not fail at all, the first is at fault for the
latter only, the second for both. -/
example : processFaults
    { name := "twins", processes := [⟨"a", "", 0, .zero⟩, ⟨"a", "", 0, .zero⟩] } =
    [.zeroMaxFailures "a", .duplicateProcess "a", .zeroMaxFailures "a"] := by decide

theorem constraintFaults_eq_nil : draft.constraintFaults = [] ↔
    (∀ constraint ∈ draft.task.constraints,
      constraint.predecessor ∈ draft.task.processNames ∧
        constraint.successor ∈ draft.task.processNames) ∧
      ∀ constraint ∈ draft.task.constraints, constraint.predecessor ≠ constraint.successor := by
  simp only [constraintFaults, Constraint.faults, List.flatMap_eq_nil_iff,
    List.append_eq_nil_iff, violation_eq_nil, not_not, ← forall₂_and, ne_eq]

/-- A description violates no check exactly if all that makes it well-formed holds of it,
but for the arrangement, instead of which no order names a process twice in a row. -/
theorem faults_eq_nil : draft.faults = [] ↔
    (Text.trim draft.name ≠ "" ∧ draft.processes ≠ [] ∧ draft.resources.Usable) ∧
      (∀ order ∈ draft.orders, 2 ≤ order.length) ∧
      (draft.task.processNames.Nodup ∧ ∀ process ∈ draft.processes, process.maxFailures ≠ 0) ∧
      (∀ order ∈ draft.orders, order ⊆ draft.task.processNames) ∧
      ∀ constraint ∈ draft.task.constraints, constraint.predecessor ≠ constraint.successor := by
  rw [faults, List.append_eq_nil_iff, List.append_eq_nil_iff, List.append_eq_nil_iff,
    List.map_eq_nil_iff, List.map_eq_nil_iff, sectionFaults_eq_nil, orderFaults_eq_nil,
    processFaults_eq_nil, constraintFaults_eq_nil, and_assoc, and_assoc]
  refine and_congr_right fun _ => and_congr_right fun hlong => and_congr_right fun _ => ?_
  exact and_congr_left' (Constraint.declared_iff hlong)

/-! ## The outcome -/

/-- Past the sections and the orders the check of the task decides. -/
theorem validate_of_check (h : draft.fault? = none) :
    (∀ task, TaskSpec.ofDraft draft.task = .ok task → draft.validate = .ok ⟨draft.options, task⟩) ∧
      ∀ fault, draft.task.check = .error fault → draft.validate = .error (.task fault) := by
  refine ⟨fun task hok => ?_, fun fault herror => ?_⟩
  · simp only [validate, h, hok]
  · simp only [validate, h, TaskSpec.ofDraft_of_error herror]

theorem processes_ne_nil (h : draft.fault? = none) : draft.task.processes ≠ [] := by
  rw [fault?_eq_head?, List.head?_eq_none_iff, List.append_eq_nil_iff] at h
  exact (sectionFaults_eq_nil.mp h.1).2.1

/-- The first fault is reported. -/
theorem validate_of_fault (h : draft.faults.head? = some fault) :
    draft.validate = .error fault := by
  rw [head?_faults] at h
  -- The cases are the stages of the check; the first that finds a fault ends it.
  cases hsection : draft.fault? with
  | some first =>
    obtain rfl := Option.some.inj (hsection ▸ h)
    simp only [validate, hsection]
  | none =>
    have hcheck := TaskDraft.check_of_processes (processes_ne_nil hsection)
    cases hprocess : TaskDraft.processFault? [] draft.processes with
    | some first =>
      rw [hsection, hprocess] at h
      obtain rfl := Option.some.inj h
      refine (validate_of_check hsection).2 first (hcheck.trans ?_)
      rw [task, hprocess, Option.elim_some]
    | none =>
      rw [hsection, hprocess, Option.map_none, Option.none_or, Option.none_or,
        Option.map_eq_some_iff] at h
      obtain ⟨first, hfirst, rfl⟩ := h
      have hprecedence : Precedence.ofConstraints draft.task.processNames draft.task.constraints =
          .error first := by
        simp only [Precedence.ofConstraints, hfirst]
      refine (validate_of_check hsection).2 (.precedence first) (hcheck.trans ?_)
      rw [hprecedence, task, hprocess, Option.elim_none]
      rfl

/-- A description without a fault is accepted as it is, or some process comes after
itself. -/
theorem validate_cases (h : draft.faults = []) :
    (∃ task : TaskSpec, task.toTaskDraft = draft.task ∧
      draft.validate = .ok ⟨draft.options, task⟩) ∨
      ∃ p, draft.validate = .error (.task (.precedence (.cycle p))) ∧
        Cyclic draft.task.constraints p := by
  rw [← List.head?_eq_none_iff, head?_faults, Option.or_eq_none_iff, Option.or_eq_none_iff,
    Option.map_eq_none_iff, Option.map_eq_none_iff] at h
  obtain ⟨⟨hsection, hprocess⟩, hconstraint⟩ := h
  have hcheck := TaskDraft.check_of_processes (processes_ne_nil hsection)
  rcases Precedence.ofConstraints_cases hconstraint with ⟨precedence, hok⟩ | ⟨p, herror, hcycle⟩
  · have hchecked : draft.task.check = .ok precedence := by
      rw [hcheck, hok, task, hprocess, Option.elim_none]
      rfl
    exact Or.inl ⟨_, rfl, (validate_of_check hsection).1 _ (TaskSpec.ofDraft_of_ok hchecked)⟩
  · refine Or.inr ⟨p, (validate_of_check hsection).2 _ (hcheck.trans ?_), hcycle⟩
    rw [herror, task, hprocess, Option.elim_none]
    rfl

/-- What is accepted has no fault, and its task is as described. -/
theorem of_validate (h : draft.validate = .ok file) :
    draft.faults = [] ∧ file.options = draft.options ∧ file.task.toTaskDraft = draft.task := by
  have hfaults : draft.faults = [] := by
    cases hfaults : draft.faults with
    | nil => rfl
    | cons first rest =>
      have herror := validate_of_fault (congrArg List.head? hfaults)
      cases herror.symm.trans h
  refine ⟨hfaults, ?_⟩
  rcases validate_cases hfaults with ⟨task, htask, hok⟩ | ⟨p, herror, _⟩
  · obtain rfl := Except.ok.inj (hok.symm.trans h)
    exact ⟨rfl, htask⟩
  · cases herror.symm.trans h

/-- The launch order of the task keeps every order. -/
theorem orders_kept (h : draft.validate = .ok file) :
    LaunchOrder draft.task.processNames draft.task.constraints file.task.precedence.order ∧
      ∀ order ∈ draft.orders, order.Sublist file.task.precedence.order := by
  obtain ⟨hfaults, _, htask⟩ := of_validate h
  obtain ⟨_, _, _, hdeclared, _⟩ := faults_eq_nil.mp hfaults
  have hlaunch := (Precedence.ofConstraints_launchOrder
    (TaskDraft.check_eq_ok file.task.checked).2).2
  rw [htask] at hlaunch
  exact ⟨hlaunch, fun order horder => hlaunch.sublist horder (hdeclared order horder)⟩

theorem keeps_of_validate (h : draft.validate = .ok file) : draft.Keeps file := by
  obtain ⟨_, hoptions, htask⟩ := of_validate h
  refine ⟨hoptions, by rw [htask, task], by rw [htask, task], by rw [htask, task],
    by rw [htask, task], by rw [htask, task], ?_, (orders_kept h).2⟩
  rw [htask, task]
  exact congrArg (draft.orders.flatMap ·) (funext Constraint.chain_eq_zipWith)

theorem wellFormed_of_validate (h : draft.validate = .ok file) : draft.WellFormed := by
  obtain ⟨⟨hnamed, hinhabited, husable⟩, hlong, ⟨hdistinct, hfallible⟩, hdeclared, _⟩ :=
    faults_eq_nil.mp (of_validate h).1
  obtain ⟨hlaunch, hkept⟩ := orders_kept h
  exact ⟨hnamed, hinhabited, husable, hlong, hdistinct, hfallible, hdeclared,
    file.task.precedence.order, (List.perm_ext_iff_of_nodup hlaunch.nodup hdistinct).mpr
      hlaunch.lists, hkept⟩

theorem WellFormed.nodup_of_mem (h : draft.WellFormed) :
    ∀ order ∈ draft.orders, order.Nodup := by
  obtain ⟨arrangement, hperm, hkept⟩ := h.arranged
  exact fun order horder => (hkept order horder).nodup (hperm.nodup_iff.mpr h.distinct)

theorem WellFormed.validate (h : draft.WellFormed) : ∃ file, draft.validate = .ok file := by
  obtain ⟨arrangement, hperm, hkept⟩ := h.arranged
  have hlaunch : LaunchOrder draft.task.processNames draft.task.constraints arrangement :=
    .of_sublists (hperm.nodup_iff.mpr h.distinct) (fun _ => hperm.mem_iff) hkept
  have hfaults : draft.faults = [] :=
    faults_eq_nil.mpr ⟨⟨h.named, h.inhabited, h.usable⟩, h.long, ⟨h.distinct, h.fallible⟩,
      h.declared, fun constraint hconstraint heq =>
        Nat.ne_of_lt (hlaunch.forward constraint hconstraint) (congrArg (arrangement.idxOf ·) heq)⟩
  rcases validate_cases hfaults with ⟨task, _, hok⟩ | ⟨p, _, hcycle⟩
  · exact ⟨_, hok⟩
  · exact absurd hcycle (hlaunch.not_cyclic p)

theorem refused_of_validate (h : draft.validate = .error fault) : draft.Refused fault := by
  cases hfaults : draft.faults with
  | cons first rest =>
    have hfirst : draft.faults.head? = some first := congrArg List.head? hfaults
    obtain rfl := Except.error.inj ((validate_of_fault hfirst).symm.trans h)
    exact .violates hfirst
  | nil =>
    rcases validate_cases hfaults with ⟨task, _, hok⟩ | ⟨p, herror, hcycle⟩
    · cases hok.symm.trans h
    · obtain rfl := Except.error.inj (herror.symm.trans h)
      exact .cycle hfaults hcycle

/-- The check accepts exactly the well-formed descriptions, whose orders repeat no name.
An accepted description is kept as it is, and its launch order keeps every order; a
refused one is refused for the first check that it violates, and for a cycle only if it
violates none. -/
theorem validate_correct (draft : TaskFileDraft) :
    ((∃ file, draft.validate = .ok file) ↔ draft.WellFormed) ∧
      (draft.WellFormed → ∀ order ∈ draft.orders, order.Nodup) ∧
      (∀ file, draft.validate = .ok file → draft.Keeps file) ∧
      ∀ fault, draft.validate = .error fault → draft.Refused fault :=
  ⟨⟨fun ⟨_, h⟩ => wellFormed_of_validate h, WellFormed.validate⟩, WellFormed.nodup_of_mem,
    fun _ => keeps_of_validate, fun _ => refused_of_validate⟩

end TaskFileDraft

end Overseer
