import Overseer.Precedence.LaunchOrder
import Mathlib.Data.List.Basic

/-!
# Launch orders stand up

A precedence that `Precedence.ofConstraints` gives lists every declared process,
keeps exactly the given constraints, and places the predecessor of each
constraint before its successor.

Results:
1. `mem_finishOrder`, `finishOrder_nodup`: the depth-first order lists the given
   names and no others, each once.
2. `latePredecessor?_eq_none`: an order that passes the check has the
   predecessors of each name before it.
3. `Precedence.ofConstraints_sound`, `Precedence.ofConstraints_nodup`: all of this
   for the precedence found.
-/

namespace Overseer

/-! ## Constraints -/

theorem Constraint.fault?_eq_none {names : List ProcessName} {constraint : Constraint}
    (h : constraint.fault? names = none) :
    constraint.predecessor ∈ names ∧ constraint.successor ∈ names ∧
      constraint.predecessor ≠ constraint.successor := by
  unfold Constraint.fault? at h
  split at h
  · cases h
  · next hp =>
    split at h
    · cases h
    · next hs =>
      split at h
      · cases h
      · next hne => exact ⟨not_not.mp hp, not_not.mp hs, hne⟩

@[simp]
theorem mem_predecessorsIn {edges : List Constraint} {p q : ProcessName} :
    p ∈ predecessorsIn edges q ↔ ⟨p, q⟩ ∈ edges := by
  simp only [predecessorsIn, List.mem_map, List.mem_filter, decide_eq_true_eq]
  constructor
  · rintro ⟨⟨a, b⟩, ⟨hmem, rfl⟩, rfl⟩
    exact hmem
  · intro hmem
    exact ⟨⟨p, q⟩, ⟨hmem, rfl⟩, rfl⟩

@[simp]
theorem mem_successorsIn {edges : List Constraint} {p q : ProcessName} :
    q ∈ successorsIn edges p ↔ ⟨p, q⟩ ∈ edges := by
  simp only [successorsIn, List.mem_map, List.mem_filter, decide_eq_true_eq]
  constructor
  · rintro ⟨⟨a, b⟩, ⟨hmem, rfl⟩, rfl⟩
    exact hmem
  · intro hmem
    exact ⟨⟨p, q⟩, ⟨hmem, rfl⟩, rfl⟩

/-! ## The depth-first order -/

/-- Whatever was left or waits on the stack is left in the end. -/
theorem mem_depthFirst {next : ProcessName → List ProcessName}
    {unseen left stack : List ProcessName} {p : ProcessName} (h : p ∈ left ∨ p ∈ stack) :
    p ∈ depthFirst next unseen left stack := by
  -- The cases are the steps of the walk: done, a new name, a name left before, a name left now.
  fun_induction depthFirst next unseen left stack with
  | case1 unseen left => simpa using h
  | case2 unseen left top below hmem unseen' ih =>
    refine ih ?_
    rcases h with h | h
    · exact Or.inl h
    · exact Or.inr (List.mem_append_right _ h)
  | case3 unseen left top below _ hleft ih =>
    refine ih ?_
    rcases h with h | h
    · exact Or.inl h
    · rcases List.mem_cons.mp h with rfl | h
      · exact Or.inl hleft
      · exact Or.inr h
  | case4 unseen left top below _ _ ih =>
    refine ih ?_
    rcases h with h | h
    · exact Or.inl (List.mem_cons_of_mem _ h)
    · rcases List.mem_cons.mp h with rfl | h
      · exact Or.inl List.mem_cons_self
      · exact Or.inr h

/-- Only names that the walk knew of are left. -/
theorem of_mem_depthFirst {next : ProcessName → List ProcessName}
    {unseen left stack : List ProcessName} {p : ProcessName}
    (h : p ∈ depthFirst next unseen left stack) : p ∈ unseen ∨ p ∈ left ∨ p ∈ stack := by
  fun_induction depthFirst next unseen left stack with
  | case1 unseen left => exact Or.inr (Or.inl h)
  | case2 unseen left top below hmem unseen' ih =>
    rcases ih h with h | h | h
    · exact Or.inl (List.mem_of_mem_erase h)
    · exact Or.inr (Or.inl h)
    · rcases List.mem_append.mp h with h | h
      · simp only [List.mem_reverse, List.mem_filter, decide_eq_true_eq] at h
        exact Or.inl (List.mem_of_mem_erase h.2)
      · exact Or.inr (Or.inr h)
  | case3 unseen left top below _ _ ih =>
    rcases ih h with h | h | h
    · exact Or.inl h
    · exact Or.inr (Or.inl h)
    · exact Or.inr (Or.inr (List.mem_cons_of_mem _ h))
  | case4 unseen left top below _ _ ih =>
    rcases ih h with h | h | h
    · exact Or.inl h
    · rcases List.mem_cons.mp h with rfl | h
      · exact Or.inr (Or.inr List.mem_cons_self)
      · exact Or.inr (Or.inl h)
    · exact Or.inr (Or.inr (List.mem_cons_of_mem _ h))

theorem mem_finishOrder {names : List ProcessName} {edges : List Constraint} {p : ProcessName} :
    p ∈ finishOrder names edges ↔ p ∈ names := by
  constructor
  · intro h
    rcases of_mem_depthFirst h with h | h | h
    · exact h
    · cases h
    · exact h
  · intro h
    exact mem_depthFirst (Or.inr h)

/-- A name is left only if it was not left before. -/
theorem depthFirst_nodup {next : ProcessName → List ProcessName}
    {unseen left stack : List ProcessName} (h : left.Nodup) :
    (depthFirst next unseen left stack).Nodup := by
  fun_induction depthFirst next unseen left stack with
  | case1 unseen left => exact h
  | case2 unseen left top below hmem unseen' ih => exact ih h
  | case3 unseen left top below _ _ ih => exact ih h
  | case4 unseen left top below _ hfresh ih => exact ih (List.nodup_cons.mpr ⟨hfresh, h⟩)

theorem finishOrder_nodup (names : List ProcessName) (edges : List Constraint) :
    (finishOrder names edges).Nodup :=
  depthFirst_nodup List.nodup_nil

/-! ## The check -/

/-- Each name of a checked order has its predecessors among those before it. -/
theorem latePredecessor?_eq_none {edges : List Constraint} {before order : List ProcessName}
    (h : latePredecessor? edges before order = none) {front rest : List ProcessName}
    {name p : ProcessName} (hsplit : order = front ++ name :: rest)
    (hp : p ∈ predecessorsIn edges name) : p = name ∨ p ∈ front ∨ p ∈ before := by
  induction front generalizing before order with
  | nil =>
    subst hsplit
    simp only [latePredecessor?, List.nil_append] at h
    split at h
    · cases h
    · next hnone =>
      have hlate := List.filter_eq_nil_iff.mp (List.getLast?_eq_none_iff.mp hnone) p hp
      simp only [decide_eq_true_eq, not_not] at hlate
      rcases List.mem_cons.mp hlate with heq | hbefore
      · exact Or.inl heq
      · exact Or.inr (Or.inr hbefore)
  | cons head front ih =>
    subst hsplit
    simp only [latePredecessor?, List.cons_append] at h
    split at h
    · cases h
    · rcases ih h rfl with heq | hfront | hbefore
      · exact Or.inl heq
      · exact Or.inr (Or.inl (List.mem_cons_of_mem _ hfront))
      · rcases List.mem_cons.mp hbefore with rfl | hbefore
        · exact Or.inr (Or.inl List.mem_cons_self)
        · exact Or.inr (Or.inr hbefore)

/-! ## Precedences -/

namespace Precedence

/-- What a precedence of declared names promises: its order lists the names, and
each constraint points forward in it. -/
structure Sound (precedence : Precedence) (names : List ProcessName) : Prop where
  mem_order : ∀ p, p ∈ precedence.order ↔ p ∈ names
  declared : ∀ edge ∈ precedence.edges, edge.predecessor ∈ names ∧ edge.successor ∈ names
  forward : ∀ edge ∈ precedence.edges,
    precedence.order.idxOf edge.predecessor < precedence.order.idxOf edge.successor

/-- A name stands behind every name of the part of the order before it. -/
theorem idxOf_lt_of_front {order front rest : List ProcessName} {p q : ProcessName}
    (hsplit : order = front ++ q :: rest) (hp : p ∈ front) (hq : q ∉ front) :
    order.idxOf p < order.idxOf q := by
  subst hsplit
  rw [List.idxOf_append_of_mem hp, List.idxOf_append_of_notMem hq]
  exact Nat.lt_of_lt_of_le (List.idxOf_lt_length_of_mem hp) (Nat.le_add_right _ _)

theorem ofConstraints_sound {names : List ProcessName} {constraints : List Constraint}
    {precedence : Precedence} (h : ofConstraints names constraints = .ok precedence) :
    precedence.Sound names ∧ precedence.edges = constraints.eraseDups := by
  unfold ofConstraints at h
  split at h
  · cases h
  · next hfault =>
    simp only [launchOrder] at h
    split at h
    · next order horder =>
      split at horder
      · cases horder
      · next hlate =>
        cases horder
        cases h
        have hfree : ∀ edge ∈ constraints.eraseDups, edge.fault? names = none := by
          intro edge hedge
          exact List.findSome?_eq_none_iff.mp hfault edge (List.mem_eraseDups.mp hedge)
        refine ⟨⟨fun p => ?_, fun edge hedge => ?_, fun edge hedge => ?_⟩, rfl⟩
        · rw [mem_finishOrder, List.mem_eraseDups]
        · obtain ⟨hp, hs, _⟩ := Constraint.fault?_eq_none (hfree edge hedge)
          exact ⟨hp, hs⟩
        · obtain ⟨_, hs, hne⟩ := Constraint.fault?_eq_none (hfree edge hedge)
          have hlisted : edge.successor ∈ finishOrder names.eraseDups constraints.eraseDups :=
            mem_finishOrder.mpr (List.mem_eraseDups.mpr hs)
          -- The check looked at the first place of each name, so the predecessor is before that.
          obtain ⟨front, rest, hsplit, hfresh⟩ := List.eq_append_cons_of_mem hlisted
          have hpred : edge.predecessor ∈ predecessorsIn constraints.eraseDups edge.successor :=
            mem_predecessorsIn.mpr hedge
          rcases latePredecessor?_eq_none hlate hsplit hpred with heq | hfront | hnil
          · exact absurd heq hne
          · exact idxOf_lt_of_front hsplit hfront hfresh
          · cases hnil
    · cases h

theorem ofConstraints_nodup {names : List ProcessName} {constraints : List Constraint}
    {precedence : Precedence} (h : ofConstraints names constraints = .ok precedence) :
    precedence.order.Nodup := by
  simp only [ofConstraints, launchOrder] at h
  split at h
  · cases h
  · split at h
    · next order horder =>
      split at horder
      · cases horder
      · cases horder
        cases h
        exact finishOrder_nodup _ _
    · cases h

end Precedence

end Overseer
