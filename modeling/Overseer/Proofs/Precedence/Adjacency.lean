import Overseer.Proofs.Precedence.Acceptance
import Mathlib.Data.List.Induction

/-!
# The neighbours of a process

A precedence keeps its constraints in one list and reads the neighbours of a process off it.
The same lists arise in one pass over the given constraints that enters each of them at both
of its ends, and that looks for a repetition at the successor only. Either way a constraint
stands once at each of its ends, in the order in which the constraints were first given, so
that the lists of all processes mirror each other.

Results:
1. `Constraint.eraseDups_ordered`: distinct constraints keep the order of their first occurrence.
2. `Adjacency.enter_ofEdges`, `Adjacency.ofConstraints_eq`: one constraint of the pass, and
   all of them.
3. `Precedence.ofConstraints_adjacency`: the neighbours and the roots of what is accepted.
-/

namespace Overseer

variable {names : List ProcessName} {constraints : List Constraint}

/-! ## Distinct constraints -/

namespace Constraint

/-- A constraint at the end of the list counts only if it was not given before. -/
theorem eraseDups_concat (constraints : List Constraint) (edge : Constraint) :
    (constraints ++ [edge]).eraseDups =
      if edge ∈ constraints then constraints.eraseDups else constraints.eraseDups ++ [edge] := by
  rw [List.eraseDups_append]
  by_cases hmem : edge ∈ constraints
  · simp [List.removeAll, hmem]
  · simp [List.removeAll, hmem, List.eraseDups_cons]

theorem eraseDups_ordered (constraints : List Constraint) :
    constraints.eraseDups.Pairwise fun a b => constraints.idxOf a < constraints.idxOf b := by
  induction constraints using List.reverseRecOn with
  | nil => exact List.Pairwise.nil
  | append_singleton constraints edge ih =>
    -- What was given before stays in its place.
    have hplace : ∀ a ∈ constraints.eraseDups,
        (constraints ++ [edge]).idxOf a = constraints.idxOf a := fun a ha =>
      List.idxOf_append_of_mem (List.mem_eraseDups.mp ha)
    have hkept : constraints.eraseDups.Pairwise fun a b =>
        (constraints ++ [edge]).idxOf a < (constraints ++ [edge]).idxOf b := by
      refine ih.imp_of_mem fun {a b} ha hb hlt => ?_
      rwa [hplace a ha, hplace b hb]
    rw [eraseDups_concat]
    split
    · exact hkept
    · next hnew =>
      refine List.pairwise_append.mpr ⟨hkept, List.pairwise_singleton _ _, fun a ha b hb => ?_⟩
      rw [List.mem_singleton.mp hb, hplace a ha, List.idxOf_append_of_notMem hnew]
      exact Nat.lt_add_right _ (List.idxOf_lt_length_of_mem (List.mem_eraseDups.mp ha))

/-- The far ends of the distinct constraints at a process come in the order in which their
constraints were first given; `rebuild` makes a constraint of its far end. -/
theorem ends_ordered (constraints : List Constraint) (here : Constraint → Bool)
    (far : Constraint → ProcessName) (rebuild : ProcessName → Constraint)
    (hrebuild : ∀ edge, here edge = true → rebuild (far edge) = edge) :
    ((constraints.eraseDups.filter here).map far).Pairwise fun a b =>
      constraints.idxOf (rebuild a) < constraints.idxOf (rebuild b) := by
  refine List.pairwise_map.mpr ?_
  refine ((eraseDups_ordered constraints).filter here).imp_of_mem fun {a b} ha hb hlt => ?_
  rwa [hrebuild a (List.mem_filter.mp ha).2, hrebuild b (List.mem_filter.mp hb).2]

end Constraint

/-! ## One pass over the constraints -/

/-- For each process those that it waits for, and those that wait for it. -/
@[ext]
structure Adjacency where
  dependencies : ProcessName → List ProcessName
  dependents : ProcessName → List ProcessName

namespace Adjacency

/-- No process waits for another. -/
def empty : Adjacency := ⟨fun _ => [], fun _ => []⟩

/-- Enters a constraint at both of its ends, unless its successor knows of it. -/
def enter (adjacency : Adjacency) (edge : Constraint) : Adjacency :=
  if edge.predecessor ∈ adjacency.dependencies edge.successor then adjacency
  else
    { dependencies := Function.update adjacency.dependencies edge.successor
        (adjacency.dependencies edge.successor ++ [edge.predecessor])
      dependents := Function.update adjacency.dependents edge.predecessor
        (adjacency.dependents edge.predecessor ++ [edge.successor]) }

/-- Enters the constraints one after the other. -/
def ofConstraints (constraints : List Constraint) : Adjacency := constraints.foldl enter empty

/-- The neighbours along the given constraints, repetitions included. -/
def ofEdges (edges : List Constraint) : Adjacency := ⟨predecessorsIn edges, successorsIn edges⟩

/-- One more constraint adds its far end to the list at its near end. -/
theorem ends_concat (near far : Constraint → ProcessName) (edges : List Constraint)
    (edge : Constraint) :
    (fun p => ((edges ++ [edge]).filter (near · = p)).map far) =
      Function.update (fun p => (edges.filter (near · = p)).map far) (near edge)
        ((edges.filter (near · = near edge)).map far ++ [far edge]) := by
  funext p
  by_cases hp : p = near edge
  · subst hp
    simp
  · simp [hp, Ne.symm hp]

/-- A constraint is found at its successor exactly if it was entered before. -/
theorem enter_ofEdges (edges : List Constraint) (edge : Constraint) :
    (ofEdges edges).enter edge = ofEdges (if edge ∈ edges then edges else edges ++ [edge]) := by
  have hknown : edge.predecessor ∈ (ofEdges edges).dependencies edge.successor ↔ edge ∈ edges :=
    mem_predecessorsIn
  unfold enter
  by_cases hmem : edge ∈ edges
  · rw [if_pos (hknown.mpr hmem), if_pos hmem]
  · rw [if_neg (mt hknown.mp hmem), if_neg hmem]
    ext1
    · exact (ends_concat Constraint.successor Constraint.predecessor edges edge).symm
    · exact (ends_concat Constraint.predecessor Constraint.successor edges edge).symm

theorem ofConstraints_eq (constraints : List Constraint) :
    ofConstraints constraints = ofEdges constraints.eraseDups := by
  induction constraints using List.reverseRecOn with
  | nil => rfl
  | append_singleton constraints edge ih =>
    calc ofConstraints (constraints ++ [edge])
        = (ofConstraints constraints).enter edge := List.foldl_concat ..
      _ = ofEdges (if edge ∈ constraints.eraseDups then constraints.eraseDups
            else constraints.eraseDups ++ [edge]) := by rw [ih, enter_ofEdges]
      _ = ofEdges (constraints ++ [edge]).eraseDups := by
        simp only [Constraint.eraseDups_concat, List.mem_eraseDups]

end Adjacency

/-! ## Accepted constraints -/

namespace Precedence

variable {precedence : Precedence}

/-- The neighbours of every process are read off the given constraints: each constraint stands
once in the list of its successor and once in that of its predecessor, in the order in which
the constraints were first given. -/
structure Mirrors (precedence : Precedence) (constraints : List Constraint) : Prop where
  converse : ∀ p q, p ∈ precedence.dependenciesOf q ↔ q ∈ precedence.dependentsOf p
  given : ∀ p q, q ∈ precedence.dependentsOf p ↔ ⟨p, q⟩ ∈ constraints
  dependencies_nodup : ∀ q, (precedence.dependenciesOf q).Nodup
  dependents_nodup : ∀ p, (precedence.dependentsOf p).Nodup
  dependencies_ordered : ∀ q, (precedence.dependenciesOf q).Pairwise fun a b =>
    constraints.idxOf ⟨a, q⟩ < constraints.idxOf ⟨b, q⟩
  dependents_ordered : ∀ p, (precedence.dependentsOf p).Pairwise fun a b =>
    constraints.idxOf ⟨p, a⟩ < constraints.idxOf ⟨p, b⟩
  /-- One pass that looks for repetitions at the successors only comes to the same lists. -/
  entered : Adjacency.ofConstraints constraints =
    ⟨precedence.dependenciesOf, precedence.dependentsOf⟩

/-- The roots are the declared processes that wait for nothing, each once, as they stand in
the launch order. -/
structure RootedIn (precedence : Precedence) (names : List ProcessName)
    (constraints : List Constraint) : Prop where
  mem : ∀ p, p ∈ precedence.roots ↔ p ∈ names ∧ ∀ edge ∈ constraints, edge.successor ≠ p
  nodup : precedence.roots.Nodup
  arranged : precedence.roots.Sublist precedence.order
  launchOrder : LaunchOrder names constraints precedence.order

theorem mirrors_of_edges (hedges : precedence.edges = constraints.eraseDups) :
    precedence.Mirrors constraints := by
  have hdependencies : ∀ q, (precedence.dependenciesOf q).Pairwise fun a b =>
      constraints.idxOf ⟨a, q⟩ < constraints.idxOf ⟨b, q⟩ := fun q => by
    rw [dependenciesOf, hedges]
    refine Constraint.ends_ordered constraints _ _ (⟨·, q⟩) fun edge hedge => ?_
    rw [← of_decide_eq_true hedge]
  have hdependents : ∀ p, (precedence.dependentsOf p).Pairwise fun a b =>
      constraints.idxOf ⟨p, a⟩ < constraints.idxOf ⟨p, b⟩ := fun p => by
    rw [dependentsOf, hedges]
    refine Constraint.ends_ordered constraints _ _ (⟨p, ·⟩) fun edge hedge => ?_
    rw [← of_decide_eq_true hedge]
  refine ⟨fun p q => ?_, fun p q => ?_, fun q => ?_, fun p => ?_, hdependencies, hdependents, ?_⟩
  · rw [dependenciesOf, dependentsOf, mem_predecessorsIn, mem_successorsIn]
  · rw [dependentsOf, mem_successorsIn, hedges, List.mem_eraseDups]
  · -- Names in strictly different places are different.
    refine (hdependencies q).imp fun {a b} hlt => ?_
    rintro rfl
    exact Nat.lt_irrefl _ hlt
  · refine (hdependents p).imp fun {a b} hlt => ?_
    rintro rfl
    exact Nat.lt_irrefl _ hlt
  · rw [Adjacency.ofConstraints_eq, ← hedges]
    rfl

theorem Mirrors.isPredecessor_iff (h : precedence.Mirrors constraints) (p : ProcessName) :
    precedence.isPredecessor p = true ↔ ∃ edge ∈ constraints, edge.predecessor = p := by
  rw [isPredecessor, Bool.not_eq_true', List.isEmpty_eq_false_iff_exists_mem]
  constructor
  · rintro ⟨q, hq⟩
    exact ⟨⟨p, q⟩, (h.given p q).mp hq, rfl⟩
  · rintro ⟨edge, hedge, rfl⟩
    exact ⟨edge.successor, (h.given _ _).mpr hedge⟩

theorem Mirrors.rootedIn (h : precedence.Mirrors constraints)
    (horder : LaunchOrder names constraints precedence.order) :
    precedence.RootedIn names constraints where
  mem p := by
    have hfree : precedence.dependenciesOf p = [] ↔ ∀ edge ∈ constraints, edge.successor ≠ p := by
      rw [List.eq_nil_iff_forall_not_mem]
      constructor
      · rintro hnone edge hedge rfl
        exact hnone edge.predecessor ((h.converse _ _).mpr ((h.given _ _).mpr hedge))
      · intro hnone q hq
        exact hnone ⟨q, p⟩ ((h.given q p).mp ((h.converse q p).mp hq)) rfl
    rw [roots, List.mem_filter, horder.lists, List.isEmpty_iff, hfree]
  nodup := horder.nodup.filter _
  arranged := List.filter_sublist
  launchOrder := horder

/-- Where the constraints are accepted, one process is among the dependencies of another exactly
if that is among its dependents, and exactly if a constraint says so. No list has repetitions,
and each is in the order in which its constraints were first given. A process is waited for
if it is the predecessor of a constraint, and the roots are the declared processes that are
the successor of none, in launch order. -/
theorem ofConstraints_adjacency (h : ofConstraints names constraints = .ok precedence) :
    precedence.Mirrors constraints ∧
      (∀ p, precedence.isPredecessor p = true ↔ ∃ edge ∈ constraints, edge.predecessor = p) ∧
      precedence.RootedIn names constraints := by
  have hmirrors := mirrors_of_edges (ofConstraints_sound h).2
  exact ⟨hmirrors, hmirrors.isPredecessor_iff, hmirrors.rootedIn (ofConstraints_launchOrder h).2⟩

/-- A constraint that is given twice keeps its first place, at both of its ends. -/
theorem ofConstraints_adjacency_repeated :
    let constraints : List Constraint :=
      [⟨"c", "b"⟩, ⟨"a", "b"⟩, ⟨"c", "b"⟩, ⟨"a", "d"⟩, ⟨"a", "b"⟩]
    let precedence : Precedence := ⟨["c", "a", "d", "b"], [⟨"c", "b"⟩, ⟨"a", "b"⟩, ⟨"a", "d"⟩]⟩
    ofConstraints ["b", "d", "a", "b", "c"] constraints = .ok precedence ∧
      precedence.dependenciesOf "b" = ["c", "a"] ∧ precedence.dependentsOf "a" = ["b", "d"] ∧
      precedence.Mirrors constraints ∧ precedence.isPredecessor "c" = true ∧
      precedence.roots = ["c", "a"] ∧
      precedence.RootedIn ["b", "d", "a", "b", "c"] constraints := by
  intro constraints precedence
  have horder : finishOrder ["b", "d", "a", "c"] precedence.edges = ["c", "a", "d", "b"] := by
    simp [precedence, finishOrder, depthFirst, successorsIn]
  have haccepted : ofConstraints ["b", "d", "a", "b", "c"] constraints = .ok precedence := by
    simp [constraints, precedence, ofConstraints, Constraint.fault?, launchOrder, horder,
      latePredecessor?, predecessorsIn, List.eraseDups_cons]
  obtain ⟨hmirrors, hpredecessor, hrooted⟩ := ofConstraints_adjacency haccepted
  refine ⟨haccepted, rfl, rfl, hmirrors, ?_, rfl, hrooted⟩
  exact (hpredecessor "c").mpr ⟨⟨"c", "b"⟩, by decide, rfl⟩

end Precedence

end Overseer
