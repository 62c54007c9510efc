import Overseer.Proofs.Precedence.Order
import Overseer.Proofs.Precedence.Visits

/-!
# Which constraints have a launch order

The depth-first walk leaves a process after its successors, except for those that
it was still on its way from. Such a successor leads back to the process, so the
two are on a cycle. On constraints without cycles the walk therefore gives a launch
order, and a predecessor that comes too late is always on a cycle.

Results:
1. `depthFirst_descending`: what stands behind a name in the order of the walk.
2. `cyclic_of_latePredecessor?`: a late predecessor is on a cycle.
3. `Precedence.ofConstraints_accepts`: what is accepted, and with which order.
-/

namespace Overseer

/-! ## The walk -/

section Walk

variable {next : ProcessName → List ProcessName} {names unseen left stack below : List ProcessName}
  {top : ProcessName}

/-- The successors of each name stand behind it, unless they lead back to it. -/
def Descending (next : ProcessName → List ProcessName) (order : List ProcessName) : Prop :=
  ∀ front name rest, order = front ++ name :: rest →
    ∀ q ∈ next name, q ∈ rest ∨ Leads next q name

/-- A name that was met but not left leads to all that lies above its first place
on the stack. Its successors are left or lie there, unless they lead back to it. -/
def Traced (next : ProcessName → List ProcessName) (unseen left stack : List ProcessName) : Prop :=
  ∀ above name rest, stack = above ++ name :: rest → name ∉ above → name ∉ unseen →
    name ∉ left → (∀ q ∈ above, Leads next name q) ∧
      ∀ q ∈ next name, q ∈ left ∨ q ∈ above ∨ Leads next q name

/-- What holds all along a walk over `names`. -/
structure Walk (next : ProcessName → List ProcessName)
    (names unseen left stack : List ProcessName) : Prop where
  known : ∀ p ∈ names, p ∈ unseen ∨ p ∈ left ∨ p ∈ stack
  traced : Traced next unseen left stack
  descending : Descending next left

/-- The first place of a name that is not in the front part lies behind that part. -/
theorem split_behind {front rest above tail : List ProcessName} {name : ProcessName}
    (h : front ++ rest = above ++ name :: tail) (hname : name ∉ front) :
    ∃ middle, above = front ++ middle ∧ rest = middle ++ name :: tail := by
  rcases List.append_eq_append_iff.mp h with ⟨middle, habove, hrest⟩ | ⟨inner, hfront, htail⟩
  · exact ⟨middle, habove, hrest⟩
  · cases inner with
    | nil => exact ⟨[], by simpa using hfront.symm, by simpa using htail.symm⟩
    | cons head inner =>
      obtain ⟨rfl, _⟩ := List.cons.inj htail
      exact absurd (hfront ▸ List.mem_append_right _ List.mem_cons_self) hname

/-- A name on the stack that was met but not left leads to the name on top. -/
theorem Traced.leads_top (h : Traced next unseen left (top :: below)) {p : ProcessName}
    (hp : p ∈ top :: below) (hmet : p ∉ unseen) (hopen : p ∉ left) : Leads next p top := by
  obtain ⟨above, rest, hsplit, hfirst⟩ := List.eq_append_cons_of_mem hp
  cases above with
  | nil =>
    rw [(List.cons.inj hsplit).1]
  | cons head above =>
    obtain ⟨rfl, _⟩ := List.cons.inj hsplit
    exact (h _ p rest hsplit hfirst hmet hopen).1 top List.mem_cons_self

/-- A name is met: its successors that were not met so far come on top of it. -/
theorem Walk.meet (h : Walk next names unseen left (top :: below))
    (closed : ∀ p q, q ∈ next p → q ∈ names) :
    Walk next names (unseen.erase top) left
      (((next top).filter (· ∈ unseen.erase top)).reverse ++ top :: below) := by
  have hmem : ∀ q, q ∈ ((next top).filter (· ∈ unseen.erase top)).reverse ↔
      q ∈ next top ∧ q ∈ unseen.erase top := by simp
  generalize ((next top).filter (· ∈ unseen.erase top)).reverse = pushed at hmem ⊢
  have hmet : ∀ q, q ≠ top → q ∉ unseen.erase top → q ∉ unseen := fun q hne hq hold =>
    hq ((List.mem_erase_of_ne hne).mpr hold)
  refine ⟨?_, ?_, h.descending⟩
  · intro p hp
    by_cases hsame : p = top
    · exact Or.inr (Or.inr (List.mem_append_right _ (hsame ▸ List.mem_cons_self)))
    · rcases h.known p hp with hunseen | hleft | hstack
      · exact Or.inl ((List.mem_erase_of_ne hsame).mpr hunseen)
      · exact Or.inr (Or.inl hleft)
      · exact Or.inr (Or.inr (List.mem_append_right _ hstack))
  · intro above name rest hsplit hfirst hunseen hopen
    obtain ⟨middle, rfl, hstack⟩ := split_behind hsplit fun hp => hunseen ((hmem name).mp hp).2
    cases middle with
    | nil =>
      -- The name that was met just now: what lies above it are its successors.
      obtain ⟨rfl, _⟩ := List.cons.inj hstack
      refine ⟨fun q hq => ?_, fun q hq => ?_⟩
      · rw [List.append_nil] at hq
        exact .single ((hmem q).mp hq).1
      · by_cases hnew : q ∈ unseen.erase top
        · exact Or.inr (Or.inl (List.mem_append_left _ ((hmem q).mpr ⟨hq, hnew⟩)))
        by_cases hsame : q = top
        · exact Or.inr (Or.inr (hsame ▸ .refl))
        rcases h.known q (closed top q hq) with hold | hleft | hwaiting
        · exact absurd hold (hmet q hsame hnew)
        · exact Or.inl hleft
        · by_cases hleft : q ∈ left
          · exact Or.inl hleft
          · exact Or.inr (Or.inr (h.traced.leads_top hwaiting (hmet q hsame hnew) hleft))
    | cons head middle =>
      obtain ⟨rfl, _⟩ := List.cons.inj hstack
      have hne : name ≠ top := fun heq =>
        hfirst (List.mem_append_right _ (heq ▸ List.mem_cons_self))
      obtain ⟨habove, hnext⟩ := h.traced (top :: middle) name rest hstack
        (fun hp => hfirst (List.mem_append_right _ hp)) (hmet name hne hunseen) hopen
      refine ⟨fun q hq => ?_, fun q hq => ?_⟩
      · rcases List.mem_append.mp hq with hpushed | hq
        · exact .tail (habove top List.mem_cons_self) ((hmem q).mp hpushed).1
        · exact habove q hq
      · rcases hnext q hq with hleft | hmiddle | hback
        · exact Or.inl hleft
        · exact Or.inr (Or.inl (List.mem_append_right _ hmiddle))
        · exact Or.inr (Or.inr hback)

/-- The name on top is passed over, or left: it leaves the stack for good. -/
theorem Traced.pop (h : Traced next unseen left (top :: below)) {left' : List ProcessName}
    (hleft : ∀ p, p ∈ left' ↔ p = top ∨ p ∈ left) : Traced next unseen left' below := by
  intro above name rest hsplit hfirst hunseen hopen
  rw [hleft, not_or] at hopen
  have hplace : name ∉ top :: above := by
    simpa using ⟨hopen.1, hfirst⟩
  obtain ⟨habove, hnext⟩ := h (top :: above) name rest (by rw [hsplit, List.cons_append]) hplace
    hunseen hopen.2
  refine ⟨fun q hq => habove q (List.mem_cons_of_mem _ hq), fun q hq => ?_⟩
  rw [hleft]
  rcases hnext q hq with hold | hq | hback
  · exact Or.inl (Or.inr hold)
  · rcases List.mem_cons.mp hq with rfl | hq
    · exact Or.inl (Or.inl rfl)
    · exact Or.inr (Or.inl hq)
  · exact Or.inr (Or.inr hback)

/-- A name that was left before is passed over. -/
theorem Walk.pass (h : Walk next names unseen left (top :: below)) (htop : top ∈ left) :
    Walk next names unseen left below := by
  refine ⟨fun p hp => ?_, h.traced.pop fun p => ?_, h.descending⟩
  · rcases h.known p hp with hunseen | hleft | hstack
    · exact Or.inl hunseen
    · exact Or.inr (Or.inl hleft)
    · rcases List.mem_cons.mp hstack with rfl | hstack
      · exact Or.inr (Or.inl htop)
      · exact Or.inr (Or.inr hstack)
  · exact ⟨Or.inr, fun hp => hp.elim (fun heq => heq ▸ htop) id⟩

/-- A name is left once nothing lies above it, so its successors were left before. -/
theorem Walk.leave (h : Walk next names unseen left (top :: below)) (hmet : top ∉ unseen)
    (hopen : top ∉ left) : Walk next names unseen (top :: left) below := by
  refine ⟨fun p hp => ?_, h.traced.pop fun p => List.mem_cons, ?_⟩
  · rcases h.known p hp with hunseen | hleft | hstack
    · exact Or.inl hunseen
    · exact Or.inr (Or.inl (List.mem_cons_of_mem _ hleft))
    · rcases List.mem_cons.mp hstack with rfl | hstack
      · exact Or.inr (Or.inl List.mem_cons_self)
      · exact Or.inr (Or.inr hstack)
  · intro front name rest hsplit q hq
    cases front with
    | nil =>
      obtain ⟨rfl, rfl⟩ := List.cons.inj hsplit
      rcases (h.traced [] top below rfl List.not_mem_nil hmet hopen).2 q hq with
        hleft | hnone | hback
      · exact Or.inl hleft
      · cases hnone
      · exact Or.inr hback
    | cons head front => exact h.descending front name rest (List.cons.inj hsplit).2 q hq

theorem depthFirst_descending (h : Walk next names unseen left stack)
    (closed : ∀ p q, q ∈ next p → q ∈ names) :
    Descending next (depthFirst next unseen left stack) := by
  -- The cases are the steps of the walk: done, a new name, a name left before, a name left now.
  fun_induction depthFirst next unseen left stack with
  | case1 unseen left => exact h.descending
  | case2 unseen left top below _ unseen' ih => exact ih (h.meet closed)
  | case3 unseen left top below _ htop ih => exact ih (h.pass htop)
  | case4 unseen left top below hmet hopen ih => exact ih (h.leave hmet hopen)

/-- At the outset nothing was met, and all names wait on the stack. -/
theorem Walk.outset (next : ProcessName → List ProcessName) (names : List ProcessName) :
    Walk next names names [] names where
  known := fun _ hp => Or.inl hp
  traced := by
    intro above name rest hsplit _ hunseen
    exact absurd (hsplit ▸ List.mem_append_right _ List.mem_cons_self) hunseen
  descending := by
    intro front name rest hsplit
    cases front <;> cases hsplit

end Walk

/-! ## Precedence -/

/-- `p` stands before `q` along a path of constraints. -/
abbrev Precedes (constraints : List Constraint) : ProcessName → ProcessName → Prop :=
  Relation.TransGen fun a b => (⟨a, b⟩ : Constraint) ∈ constraints

theorem Precedes.mono {edges constraints : List Constraint} {p q : ProcessName}
    (h : Precedes edges p q) (hsubset : edges ⊆ constraints) : Precedes constraints p q :=
  Relation.TransGen.mono (fun _ _ hedge => hsubset hedge) _ _ h

theorem leads_iff {edges : List Constraint} {p q : ProcessName} :
    Leads (successorsIn edges) p q ↔
      Relation.ReflTransGen (fun a b => (⟨a, b⟩ : Constraint) ∈ edges) p q := by
  simp only [Leads, mem_successorsIn]

/-- A path starts with a successor. -/
theorem precedes_iff {edges : List Constraint} {p q : ProcessName} :
    Precedes edges p q ↔ ∃ a ∈ successorsIn edges p, Leads (successorsIn edges) a q := by
  simp only [Precedes, Relation.TransGen.head'_iff, mem_successorsIn, leads_iff]

/-! ## Cycles -/

/-- `p` comes after itself along the constraints. -/
def Cyclic (constraints : List Constraint) (p : ProcessName) : Prop :=
  Relation.TransGen (fun a b => (⟨a, b⟩ : Constraint) ∈ constraints) p p

variable {names : List ProcessName} {edges constraints : List Constraint}

/-- The check reports a predecessor of some name that is neither that name nor
before it. -/
theorem latePredecessor?_eq_some {before order : List ProcessName} {late : ProcessName}
    (h : latePredecessor? edges before order = some late) :
    ∃ front name rest, order = front ++ name :: rest ∧ ⟨late, name⟩ ∈ edges ∧ late ≠ name ∧
      late ∉ front ∧ late ∉ before := by
  induction order generalizing before with
  | nil => cases h
  | cons head tail ih =>
    simp only [latePredecessor?] at h
    split at h
    · next found hfound =>
      obtain rfl := Option.some.inj h
      obtain ⟨hpred, hlate⟩ := List.mem_filter.mp (List.mem_of_getLast? hfound)
      rw [decide_eq_true_eq, List.mem_cons, not_or] at hlate
      exact ⟨[], head, tail, rfl, mem_predecessorsIn.mp hpred, hlate.1, List.not_mem_nil, hlate.2⟩
    · obtain ⟨front, name, rest, rfl, hedge, hne, hfront, hbefore⟩ := ih h
      rw [List.mem_cons, not_or] at hbefore
      refine ⟨head :: front, name, rest, rfl, hedge, hne, ?_, hbefore.2⟩
      rw [List.mem_cons, not_or]
      exact ⟨hbefore.1, hfront⟩

/-- A predecessor that comes too late in the depth-first order is on a cycle. -/
theorem cyclic_of_latePredecessor?
    (declared : ∀ edge ∈ edges, edge.predecessor ∈ names ∧ edge.successor ∈ names)
    {late : ProcessName} (h : latePredecessor? edges [] (finishOrder names edges) = some late) :
    Cyclic edges late := by
  obtain ⟨front, name, rest, horder, hedge, hne, hfront, _⟩ := latePredecessor?_eq_some h
  have hlisted : late ∈ finishOrder names edges := mem_finishOrder.mpr (declared _ hedge).1
  have hrest : late ∈ rest := by
    rw [horder, List.mem_append, List.mem_cons] at hlisted
    exact (hlisted.resolve_left hfront).resolve_left hne
  obtain ⟨middle, tail, rfl⟩ := List.append_of_mem hrest
  have hdescending : Descending (successorsIn edges) (finishOrder names edges) :=
    depthFirst_descending (Walk.outset _ names) fun p q hq =>
      (declared _ (mem_successorsIn.mp hq)).2
  have hsplit : finishOrder names edges = (front ++ name :: middle) ++ late :: tail := by
    rw [horder, List.append_assoc, List.cons_append]
  -- The name stands before the late one already, and no name is listed twice.
  have hback : Leads (successorsIn edges) name late := by
    refine (hdescending _ late tail hsplit name (mem_successorsIn.mpr hedge)).resolve_left ?_
    intro htail
    have hnodup := finishOrder_nodup names edges
    rw [hsplit, List.nodup_append] at hnodup
    exact hnodup.2.2 name (List.mem_append_right _ List.mem_cons_self) name
      (List.mem_cons_of_mem _ htail) rfl
  have hleads : Relation.ReflTransGen (fun a b => (⟨a, b⟩ : Constraint) ∈ edges) name late :=
    Relation.ReflTransGen.mono (fun _ _ => mem_successorsIn.mp) _ _ hback
  exact .head' hedge hleads

/-! ## Acceptance -/

/-- The order lists the names, each once, and each constraint points forward in it. -/
structure LaunchOrder (names : List ProcessName) (constraints : List Constraint)
    (order : List ProcessName) : Prop where
  nodup : order.Nodup
  lists : ∀ p, p ∈ order ↔ p ∈ names
  forward : ∀ constraint ∈ constraints,
    order.idxOf constraint.predecessor < order.idxOf constraint.successor

theorem LaunchOrder.not_cyclic {order : List ProcessName}
    (h : LaunchOrder names constraints order) (p : ProcessName) : ¬ Cyclic constraints p := by
  have hforward : ∀ {p q}, Relation.TransGen (fun a b => (⟨a, b⟩ : Constraint) ∈ constraints) p q →
      order.idxOf p < order.idxOf q := by
    intro p q hpath
    induction hpath with
    | single hedge => exact h.forward _ hedge
    | tail _ hedge ih => exact Nat.lt_trans ih (h.forward _ hedge)
  exact fun hcycle => Nat.lt_irrefl _ (hforward hcycle)

theorem Constraint.fault?_of_declared {constraint : Constraint}
    (declared : constraint.predecessor ∈ names ∧ constraint.successor ∈ names)
    (hne : constraint.predecessor ≠ constraint.successor) : constraint.fault? names = none := by
  simp [fault?, declared, hne]

namespace Precedence

theorem ofConstraints_launchOrder {precedence : Precedence}
    (h : ofConstraints names constraints = .ok precedence) :
    (∀ constraint ∈ constraints,
      constraint.predecessor ∈ names ∧ constraint.successor ∈ names) ∧
      LaunchOrder names constraints precedence.order := by
  obtain ⟨hsound, hedges⟩ := ofConstraints_sound h
  have hmem : ∀ constraint ∈ constraints, constraint ∈ precedence.edges := fun constraint hc =>
    hedges ▸ List.mem_eraseDups.mpr hc
  exact ⟨fun constraint hc => hsound.declared constraint (hmem constraint hc),
    ofConstraints_nodup h, hsound.mem_order,
    fun constraint hc => hsound.forward constraint (hmem constraint hc)⟩

/-- Constraints that have no fault of their own are accepted, or refused for a process
that comes after itself. -/
theorem ofConstraints_cases (h : constraints.findSome? (·.fault? names) = none) :
    (∃ precedence, ofConstraints names constraints = .ok precedence) ∨
      ∃ p, ofConstraints names constraints = .error (.cycle p) ∧ Cyclic constraints p := by
  simp only [ofConstraints, h, launchOrder]
  cases hlate : latePredecessor? constraints.eraseDups []
      (finishOrder names.eraseDups constraints.eraseDups) with
  | none => exact Or.inl ⟨_, rfl⟩
  | some late =>
    refine Or.inr ⟨late, rfl, ?_⟩
    have declared : ∀ edge ∈ constraints.eraseDups,
        edge.predecessor ∈ names.eraseDups ∧ edge.successor ∈ names.eraseDups := by
      intro edge hedge
      have hfree := List.findSome?_eq_none_iff.mp h edge (List.mem_eraseDups.mp hedge)
      obtain ⟨hpredecessor, hsuccessor, _⟩ := Constraint.fault?_eq_none hfree
      exact ⟨List.mem_eraseDups.mpr hpredecessor, List.mem_eraseDups.mpr hsuccessor⟩
    exact Precedes.mono (cyclic_of_latePredecessor? declared hlate) fun _ =>
      List.mem_eraseDups.mp

/-- Constraints among declared names that have no cycle are accepted. -/
theorem ofConstraints_of_acyclic
    (declared : ∀ constraint ∈ constraints,
      constraint.predecessor ∈ names ∧ constraint.successor ∈ names)
    (acyclic : ∀ p, ¬ Cyclic constraints p) :
    ∃ precedence, ofConstraints names constraints = .ok precedence := by
  have hfault : constraints.findSome? (·.fault? names) = none := by
    refine List.findSome?_eq_none_iff.mpr fun constraint hc => ?_
    refine Constraint.fault?_of_declared (declared constraint hc) fun heq => ?_
    refine acyclic constraint.predecessor (.single ?_)
    have hself : (⟨constraint.predecessor, constraint.predecessor⟩ : Constraint) = constraint := by
      rw [Constraint.mk.injEq]
      exact ⟨rfl, heq⟩
    exact hself ▸ hc
  rcases ofConstraints_cases hfault with haccepted | ⟨p, _, hcycle⟩
  · exact haccepted
  · exact absurd hcycle (acyclic p)

/-- A list of constraints is accepted exactly if they are among the declared names
and no process comes after itself; repeated names and repeated constraints do not
matter. The order that is found then lists each declared name once, and each
predecessor before its successor. -/
theorem ofConstraints_accepts (names : List ProcessName) (constraints : List Constraint) :
    ((∃ precedence, ofConstraints names constraints = .ok precedence) ↔
      (∀ constraint ∈ constraints,
        constraint.predecessor ∈ names ∧ constraint.successor ∈ names) ∧
        ∀ p, ¬ Cyclic constraints p) ∧
    ∀ precedence, ofConstraints names constraints = .ok precedence →
      LaunchOrder names constraints precedence.order := by
  refine ⟨⟨?_, ?_⟩, fun precedence h => (ofConstraints_launchOrder h).2⟩
  · rintro ⟨precedence, h⟩
    obtain ⟨hdeclared, horder⟩ := ofConstraints_launchOrder h
    exact ⟨hdeclared, horder.not_cyclic⟩
  · rintro ⟨hdeclared, hacyclic⟩
    exact ofConstraints_of_acyclic hdeclared hacyclic

/-- A name and a constraint that are given twice do no harm; two processes that wait
for each other are refused. -/
theorem ofConstraints_accepts_repeated :
    (∃ precedence, ofConstraints ["b", "a", "b"] [⟨"a", "b"⟩, ⟨"a", "b"⟩] = .ok precedence ∧
      LaunchOrder ["b", "a", "b"] [⟨"a", "b"⟩, ⟨"a", "b"⟩] precedence.order) ∧
    ¬ ∃ precedence, ofConstraints ["a", "b"] [⟨"a", "b"⟩, ⟨"b", "a"⟩] = .ok precedence := by
  constructor
  · obtain ⟨haccepts, horder⟩ :=
      ofConstraints_accepts ["b", "a", "b"] [⟨"a", "b"⟩, ⟨"a", "b"⟩]
    have hacyclic : ∀ p, ¬ Cyclic [⟨"a", "b"⟩, ⟨"a", "b"⟩] p := by
      intro p hcycle
      obtain ⟨q, hfirst, _⟩ := Relation.TransGen.head'_iff.mp hcycle
      obtain ⟨r, _, hlast⟩ := Relation.TransGen.tail'_iff.mp hcycle
      simp only [List.mem_cons, List.not_mem_nil, or_false, or_self, Constraint.mk.injEq]
        at hfirst hlast
      exact absurd (hfirst.1.symm.trans hlast.2) (by decide)
    obtain ⟨precedence, h⟩ := haccepts.mpr ⟨by decide, hacyclic⟩
    exact ⟨precedence, h, horder precedence h⟩
  · intro haccepted
    have hacyclic := ((ofConstraints_accepts _ _).1.mp haccepted).2 "a"
    exact hacyclic (.tail (b := "b") (.single (by decide)) (by decide))

end Precedence

end Overseer
