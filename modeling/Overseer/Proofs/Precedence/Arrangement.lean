import Overseer.Proofs.Precedence.Acceptance
import Mathlib.Data.List.Sort

/-!
# Orders and the constraints they stand for

An order is expanded into the constraints between its neighbours. Those point
forward in an arrangement of distinct names exactly if the order is a sublist of the
arrangement, so the launch orders of expanded orders are the arrangements that keep
all of the orders together.

Results:
1. `Constraint.chain_eq_zipWith`: the neighbours, paired.
2. `Constraint.sublist_iff_forward`: an order inside an arrangement.
3. `LaunchOrder.of_sublists`, `LaunchOrder.sublist`: many orders inside one.
-/

namespace Overseer

variable {names order arrangement : List ProcessName} {orders : List (List ProcessName)}
  {constraints : List Constraint}

/-! ## One order -/

/-- Distinct names stand one behind the other. -/
theorem pairwise_idxOf (h : arrangement.Nodup) :
    arrangement.Pairwise fun a b => arrangement.idxOf a < arrangement.idxOf b := by
  refine List.pairwise_iff_getElem.mpr fun i j hi hj hlt => ?_
  rwa [h.idxOf_getElem i hi, h.idxOf_getElem j hj]

namespace Constraint

theorem chain_eq_zipWith : ∀ order : List ProcessName,
    chain order = order.zipWith Constraint.mk order.tail
  | [] | [_] => rfl
  | a :: b :: rest => by
    rw [chain, chain_eq_zipWith (b :: rest), List.tail_cons, List.tail_cons,
      List.zipWith_cons_cons]

/-- A relation holds along the constraints if it holds between neighbours. -/
theorem forall_mem_chain {r : ProcessName → ProcessName → Prop} : ∀ {order : List ProcessName},
    (∀ constraint ∈ chain order, r constraint.predecessor constraint.successor) ↔
      order.IsChain r
  | [] | [_] => by simp [chain]
  | a :: b :: rest => by
    rw [chain, List.forall_mem_cons, List.isChain_cons_cons, forall_mem_chain]

theorem names_of_mem_chain {constraint : Constraint} (h : constraint ∈ chain order) :
    constraint.predecessor ∈ order ∧ constraint.successor ∈ order := by
  rw [chain_eq_zipWith] at h
  obtain ⟨place, hplace, rfl⟩ := List.mem_iff_getElem.mp h
  rw [List.getElem_zipWith]
  exact ⟨List.getElem_mem _, List.mem_of_mem_tail (List.getElem_mem _)⟩

/-- Every name of an order of at least two names is in a constraint. -/
theorem exists_mem_chain {p : ProcessName} : ∀ {order : List ProcessName}, p ∈ order →
    2 ≤ order.length →
      ∃ constraint ∈ chain order, p = constraint.predecessor ∨ p = constraint.successor
  | [], _, hlength | [_], _, hlength => by simp at hlength
  | a :: b :: rest, hp, _ => by
    rcases List.mem_cons.mp hp with rfl | hp
    · exact ⟨⟨p, b⟩, List.mem_cons_self, Or.inl rfl⟩
    -- A name behind the first is in a constraint of what follows, unless that is `b` alone.
    cases rest with
    | nil => exact ⟨⟨a, b⟩, List.mem_cons_self, Or.inr (List.mem_singleton.mp hp)⟩
    | cons c rest =>
      obtain ⟨constraint, hmem, heq⟩ := exists_mem_chain hp (by simp)
      exact ⟨constraint, List.mem_cons_of_mem _ hmem, heq⟩

/-- An order is kept by an arrangement of distinct names, its own among them, exactly
if its constraints point forward there. -/
theorem sublist_iff_forward (hnodup : arrangement.Nodup) (hlisted : order ⊆ arrangement) :
    order.Sublist arrangement ↔ ∀ constraint ∈ chain order,
      arrangement.idxOf constraint.predecessor < arrangement.idxOf constraint.successor := by
  let before : ProcessName → ProcessName → Prop := fun a b =>
    arrangement.idxOf a < arrangement.idxOf b
  have htrans : Trans before before before := ⟨Nat.lt_trans⟩
  have hantisymm : Std.Antisymm before := ⟨fun _ _ h h' => absurd h' (Nat.lt_asymm h)⟩
  calc order.Sublist arrangement
      ↔ order.Pairwise before := by
        refine ⟨fun hkept => (pairwise_idxOf hnodup).sublist hkept, fun hforward => ?_⟩
        have hdistinct : order.Nodup := hforward.imp fun {a b} (hlt : before a b) heq =>
          Nat.ne_of_lt hlt (congrArg arrangement.idxOf heq)
        exact List.sublist_of_subperm_of_pairwise (List.subperm_of_subset hdistinct hlisted)
          hforward (pairwise_idxOf hnodup)
    _ ↔ order.IsChain before := List.isChain_iff_pairwise.symm
    _ ↔ _ := forall_mem_chain.symm

end Constraint

/-! ## Many orders -/

/-- The constraints of orders of at least two names mention exactly the names of the
orders. -/
theorem Constraint.declared_iff (hlong : ∀ order ∈ orders, 2 ≤ order.length) :
    (∀ constraint ∈ orders.flatMap chain,
      constraint.predecessor ∈ names ∧ constraint.successor ∈ names) ↔
      ∀ order ∈ orders, order ⊆ names := by
  constructor
  · intro declared order horder p hp
    obtain ⟨constraint, hchain, heq⟩ := exists_mem_chain hp (hlong order horder)
    have hboth := declared constraint (List.mem_flatMap.mpr ⟨order, horder, hchain⟩)
    exact heq.elim (· ▸ hboth.1) (· ▸ hboth.2)
  · intro declared constraint hconstraint
    obtain ⟨order, horder, hchain⟩ := List.mem_flatMap.mp hconstraint
    have hboth := names_of_mem_chain hchain
    exact ⟨declared order horder hboth.1, declared order horder hboth.2⟩

/-- Distinct names that keep every order are a launch order. -/
theorem LaunchOrder.of_sublists (hnodup : arrangement.Nodup)
    (hlists : ∀ p, p ∈ arrangement ↔ p ∈ names)
    (hkept : ∀ order ∈ orders, order.Sublist arrangement) :
    LaunchOrder names (orders.flatMap Constraint.chain) arrangement where
  nodup := hnodup
  lists := hlists
  forward := by
    intro constraint hconstraint
    obtain ⟨order, horder, hchain⟩ := List.mem_flatMap.mp hconstraint
    have hsublist := hkept order horder
    exact (Constraint.sublist_iff_forward hnodup hsublist.subset).mp hsublist constraint hchain

/-- A launch order keeps every order of declared names. -/
theorem LaunchOrder.sublist (h : LaunchOrder names (orders.flatMap Constraint.chain) arrangement)
    (horder : order ∈ orders) (declared : order ⊆ names) : order.Sublist arrangement := by
  have hlisted : order ⊆ arrangement := fun p hp => (h.lists p).mpr (declared hp)
  refine (Constraint.sublist_iff_forward h.nodup hlisted).mpr fun constraint hchain => ?_
  exact h.forward constraint (List.mem_flatMap.mpr ⟨order, horder, hchain⟩)

end Overseer
