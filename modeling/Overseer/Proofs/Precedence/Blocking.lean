import Overseer.Precedence.Progress
import Overseer.Proofs.Precedence.Acceptance
import Mathlib.Data.List.Induction

/-!
# What failures block

A progress may be told of successes and failures in any order, more than once for
one process, and of names that are not declared. Whatever it is told, the blocked
processes are those that come after a declared process which failed. The walk that
finds them stops at what is blocked already. It loses nothing by that, because all
that comes after a blocked process is blocked as well.

Results:
1. `mem_newlyBlocked`, `newlyBlocked_nodup`: what one failure adds.
2. `mem_blocked_ofFacts`: what is blocked after any facts.
3. `Precedence.blocked_exactly`: both, in terms of the given constraints.
-/

namespace Overseer

/-- That a process came to its end. -/
inductive Fact
  | succeeded (process : ProcessName)
  | failed (process : ProcessName)
  deriving DecidableEq

namespace Progress

def record (progress : Progress) (precedence : Precedence) : Fact → Progress
  | .succeeded process => progress.recordSuccess precedence process
  | .failed process => (progress.recordFailure precedence process).1

/-- The progress after the given facts were recorded in their order. -/
def ofFacts (precedence : Precedence) (facts : List Fact) : Progress :=
  facts.foldl (fun progress fact => progress.record precedence fact) {}

/-- What comes after a blocked process is blocked. -/
def Closed (progress : Progress) (precedence : Precedence) : Prop :=
  ∀ p q, ⟨p, q⟩ ∈ precedence.edges → p ∈ progress.blocked → q ∈ progress.blocked

variable {progress : Progress} {precedence : Precedence} {names : List ProcessName}
  {facts : List Fact} {p q : ProcessName}

/-! ## Recording -/

theorem ofFacts_concat (precedence : Precedence) (facts : List Fact) (fact : Fact) :
    ofFacts precedence (facts ++ [fact]) = (ofFacts precedence facts).record precedence fact := by
  simp [ofFacts]

theorem mem_succeeded_recordSuccess (hp : p ∈ precedence.order) :
    q ∈ (progress.recordSuccess precedence p).succeeded ↔ q = p ∨ q ∈ progress.succeeded := by
  simp [recordSuccess, hp]

@[simp]
theorem recordSuccess_failed (progress : Progress) (precedence : Precedence) (p : ProcessName) :
    (progress.recordSuccess precedence p).failed = progress.failed := by
  unfold recordSuccess
  split <;> rfl

@[simp]
theorem recordSuccess_blocked (progress : Progress) (precedence : Precedence) (p : ProcessName) :
    (progress.recordSuccess precedence p).blocked = progress.blocked := by
  unfold recordSuccess
  split <;> rfl

@[simp]
theorem recordFailure_succeeded (progress : Progress) (precedence : Precedence)
    (p : ProcessName) :
    (progress.recordFailure precedence p).1.succeeded = progress.succeeded := by
  unfold recordFailure
  split <;> rfl

theorem mem_failed_recordFailure (hp : p ∈ precedence.order) :
    q ∈ (progress.recordFailure precedence p).1.failed ↔ q ∈ progress.failed ∨ q = p := by
  simp [recordFailure, hp, or_comm]

theorem mem_blocked_recordFailure :
    q ∈ (progress.recordFailure precedence p).1.blocked ↔
      q ∈ progress.blocked ∨ q ∈ (progress.recordFailure precedence p).2 := by
  unfold recordFailure
  split
  · exact List.mem_append
  · simp

/-- A process without dependents blocks nothing. -/
theorem recordFailure_of_leaf (hleaf : precedence.isPredecessor p = false) :
    (progress.recordFailure precedence p).1.blocked = progress.blocked ∧
      (progress.recordFailure precedence p).2 = [] := by
  have hnil : precedence.dependentsOf p = [] := by
    simpa [Precedence.isPredecessor] using hleaf
  unfold recordFailure
  split
  · simp [hnil, visits]
  · exact ⟨rfl, rfl⟩

/-! ## One failure -/

theorem newlyBlocked_nodup (hnodup : precedence.order.Nodup) (progress : Progress)
    (p : ProcessName) : (progress.recordFailure precedence p).2.Nodup := by
  unfold recordFailure
  split
  · exact visits_nodup (hnodup.filter _)
  · exact List.nodup_nil

/-- What is new was not blocked before. -/
theorem not_blocked_of_newlyBlocked (hq : q ∈ (progress.recordFailure precedence p).2) :
    q ∉ progress.blocked := by
  unfold recordFailure at hq
  split at hq
  · exact of_decide_eq_true (List.mem_filter.mp (free_of_mem_visits hq)).2
  · cases hq

theorem Closed.of_leads (h : progress.Closed precedence)
    (hleads : Leads precedence.dependentsOf p q) (hp : p ∈ progress.blocked) :
    q ∈ progress.blocked := by
  induction hleads with
  | refl => exact hp
  | tail _ hnext ih => exact h _ _ (mem_successorsIn.mp hnext) ih

/-- A failure blocks what comes after it, apart from what was blocked before. -/
theorem mem_newlyBlocked (h : precedence.Sound names) (hclosed : progress.Closed precedence)
    (hp : p ∈ precedence.order) :
    q ∈ (progress.recordFailure precedence p).2 ↔
      q ∉ progress.blocked ∧ Precedes precedence.edges p q := by
  constructor
  · intro hq
    refine ⟨not_blocked_of_newlyBlocked hq, precedes_iff.mpr ?_⟩
    rw [recordFailure, if_pos hp] at hq
    obtain ⟨a, ha, hleads⟩ := reachable_of_mem_visits hq
    exact ⟨a, List.mem_reverse.mp ha, hleads⟩
  · rintro ⟨hq, hpath⟩
    obtain ⟨a, ha, hleads⟩ := precedes_iff.mp hpath
    rw [recordFailure, if_pos hp]
    refine mem_visits_of_leads (List.mem_reverse.mpr ha) hleads fun b hab hbq => ?_
    have hlisted : ∀ {c d}, d ∈ successorsIn precedence.edges c → d ∈ precedence.order :=
      fun hd => (h.mem_order _).mpr (h.declared _ (mem_successorsIn.mp hd)).2
    have hb : b ∈ precedence.order := by
      cases hab with
      | refl => exact hlisted ha
      | tail _ hnext => exact hlisted hnext
    -- A blocked process on the way would have blocked `q`.
    exact List.mem_filter.mpr ⟨hb, decide_eq_true fun hblocked =>
      hq (hclosed.of_leads hbq hblocked)⟩

theorem blocked_of_failure (h : precedence.Sound names) (hclosed : progress.Closed precedence) :
    q ∈ (progress.recordFailure precedence p).1.blocked ↔
      q ∈ progress.blocked ∨ p ∈ names ∧ Precedes precedence.edges p q := by
  rw [mem_blocked_recordFailure]
  by_cases hp : p ∈ precedence.order
  · rw [mem_newlyBlocked h hclosed hp, ← h.mem_order]
    by_cases hq : q ∈ progress.blocked <;> simp [hp, hq]
  · have hname : p ∉ names := fun hname => hp ((h.mem_order p).mpr hname)
    simp [recordFailure, hp, hname]

/-! ## Any facts -/

theorem mem_blocked_ofFacts (h : precedence.Sound names) :
    q ∈ (ofFacts precedence facts).blocked ↔
      ∃ p ∈ names, .failed p ∈ facts ∧ Precedes precedence.edges p q := by
  -- By induction on the facts, of which the last one is recorded last.
  induction facts using List.reverseRecOn generalizing q with
  | nil => simp [ofFacts]
  | append_singleton facts fact ih =>
    rw [ofFacts_concat]
    cases fact with
    | succeeded r => simp [record, ih]
    | failed r =>
      have hclosed : (ofFacts precedence facts).Closed precedence := by
        intro a b hedge ha
        obtain ⟨p, hp, hfailed, hpath⟩ := ih.mp ha
        exact ih.mpr ⟨p, hp, hfailed, hpath.tail hedge⟩
      rw [record, blocked_of_failure h hclosed, ih]
      constructor
      · rintro (⟨p, hp, hfailed, hpath⟩ | ⟨hr, hpath⟩)
        · exact ⟨p, hp, List.mem_append_left _ hfailed, hpath⟩
        · exact ⟨r, hr, List.mem_append_right _ List.mem_cons_self, hpath⟩
      · rintro ⟨p, hp, hfailed, hpath⟩
        rcases List.mem_append.mp hfailed with hfailed | hlast
        · exact Or.inl ⟨p, hp, hfailed, hpath⟩
        · obtain rfl := Fact.failed.inj (List.mem_singleton.mp hlast)
          exact Or.inr ⟨hp, hpath⟩

end Progress

namespace Precedence

open Progress

/-- Whatever was recorded, blocked are exactly the processes that come after a
declared process whose failure was recorded. One more failure blocks exactly what it
answers, each process once. So neither the order of the facts matters, nor how often
a failure is recorded, nor any success. -/
theorem blocked_exactly {names : List ProcessName} {constraints : List Constraint}
    {precedence : Precedence} (h : ofConstraints names constraints = .ok precedence)
    (facts : List Fact) :
    let progress := ofFacts precedence facts
    (∀ q, progress.isBlocked q = true ↔
      ∃ p ∈ names, .failed p ∈ facts ∧ Precedes constraints p q) ∧
    (∀ p, let result := progress.recordFailure precedence p
      result.2.Nodup ∧ ∀ q, q ∈ result.2 ↔
        result.1.isBlocked q = true ∧ progress.isBlocked q = false) ∧
    ∀ others, (∀ p, .failed p ∈ others ↔ .failed p ∈ facts) →
      ∀ q, (ofFacts precedence others).isBlocked q = progress.isBlocked q := by
  intro progress
  obtain ⟨hsound, hedges⟩ := ofConstraints_sound h
  have hpath : ∀ p q, Precedes precedence.edges p q ↔ Precedes constraints p q := by
    intro p q
    rw [hedges]
    exact ⟨fun hpath => hpath.mono fun _ => List.mem_eraseDups.mp,
      fun hpath => hpath.mono fun _ => List.mem_eraseDups.mpr⟩
  have hblocked : ∀ facts q, (ofFacts precedence facts).isBlocked q = true ↔
      ∃ p ∈ names, .failed p ∈ facts ∧ Precedes constraints p q := by
    intro facts q
    rw [isBlocked, decide_eq_true_eq, mem_blocked_ofFacts hsound]
    simp only [hpath]
  refine ⟨hblocked facts, fun p => ?_, fun others hothers q => ?_⟩
  · intro result
    refine ⟨newlyBlocked_nodup (ofConstraints_nodup h) progress p, fun q => ?_⟩
    rw [isBlocked, isBlocked, decide_eq_true_eq, decide_eq_false_iff_not,
      mem_blocked_recordFailure]
    constructor
    · exact fun hq => ⟨Or.inr hq, not_blocked_of_newlyBlocked hq⟩
    · exact fun ⟨hq, hfree⟩ => hq.resolve_left hfree
  · rw [Bool.eq_iff_iff, hblocked, hblocked]
    simp only [hothers]

/-- Of four processes in a diamond `left` fails first, so that `bottom` is blocked when
`top` fails: that blocks `right`, but not `bottom` again. -/
theorem blocked_exactly_diamond :
    let names := ["top", "left", "right", "bottom"]
    let constraints : List Constraint :=
      [⟨"top", "left"⟩, ⟨"top", "right"⟩, ⟨"left", "bottom"⟩, ⟨"right", "bottom"⟩]
    ∃ precedence, ofConstraints names constraints = .ok precedence ∧
      let progress := ofFacts precedence [.failed "left", .succeeded "left", .failed "nowhere"]
      let newlyBlocked := (progress.recordFailure precedence "top").2
      progress.isBlocked "bottom" = true ∧ newlyBlocked.Nodup ∧
        "bottom" ∉ newlyBlocked ∧ "right" ∈ newlyBlocked := by
  intro names constraints
  have h : ofConstraints names constraints = .ok ⟨names, constraints⟩ := by
    simp [names, constraints, ofConstraints, Constraint.fault?, launchOrder, finishOrder,
      depthFirst, successorsIn, latePredecessor?, predecessorsIn, List.eraseDups_cons]
  refine ⟨_, h, ?_⟩
  intro progress newlyBlocked
  obtain ⟨hblocked, hnew, _⟩ :=
    blocked_exactly h [.failed "left", .succeeded "left", .failed "nowhere"]
  obtain ⟨hnodup, hmem⟩ := hnew "top"
  have hbottom := (hblocked "bottom").mpr ⟨"left", by decide, by decide, .single (by decide)⟩
  have hagain : "bottom" ∉ newlyBlocked := fun hbottom' =>
    absurd hbottom (Bool.eq_false_iff.mp ((hmem "bottom").mp hbottom').2)
  have hright : "right" ∈ newlyBlocked := by
    simp [newlyBlocked, progress, names, constraints, ofFacts, record, recordFailure,
      recordSuccess, visits, dependentsOf, successorsIn]
  exact ⟨hbottom, hnodup, hagain, hright⟩

end Precedence

end Overseer
