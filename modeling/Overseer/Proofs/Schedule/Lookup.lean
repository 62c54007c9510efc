import Overseer.Schedule.Basic
import Mathlib

/-!
# Looking processes up and putting them back

With distinct names, a process is found by its name exactly when it is listed,
and `Schedule.put` replaces one entry of the list. `put_split` is the whole of
what `put` does; sums, counts and memberships follow from it.
-/

namespace Overseer

namespace Schedule

/-- No two lifecycles have the same name. -/
def Distinct (schedule : Schedule) : Prop := (schedule.lifecycles.map (·.name)).Nodup

section Fields

variable (schedule : Schedule) (life : Lifecycle)

@[simp] theorem put_task : (schedule.put life).task = schedule.task := rfl
@[simp] theorem put_options : (schedule.put life).options = schedule.options := rfl
@[simp] theorem put_progress : (schedule.put life).progress = schedule.progress := rfl
@[simp] theorem put_budget : (schedule.put life).budget = schedule.budget := rfl
@[simp] theorem put_decision : (schedule.put life).decision = schedule.decision := rfl

end Fields

variable {schedule : Schedule} {life new : Lifecycle}

theorem Distinct.eq_of_name (hd : schedule.Distinct) {a b : Lifecycle}
    (ha : a ∈ schedule.lifecycles) (hb : b ∈ schedule.lifecycles) (h : a.name = b.name) : a = b :=
  List.inj_on_of_nodup_map hd ha hb h

theorem lifecycle?_eq_some (hd : schedule.Distinct) {p : ProcessName} :
    schedule.lifecycle? p = some life ↔ life ∈ schedule.lifecycles ∧ life.name = p := by
  constructor
  · intro h
    exact ⟨List.mem_of_find?_eq_some h, by simpa using List.find?_some h⟩
  · rintro ⟨hmem, rfl⟩
    cases hfind : schedule.lifecycle? life.name with
    | none =>
      have hnone := List.find?_eq_none.mp hfind life hmem
      simp at hnone
    | some other =>
      have hname : other.name = life.name := by simpa using List.find?_some hfind
      rw [hd.eq_of_name (List.mem_of_find?_eq_some hfind) hmem hname]

theorem lifecycle?_self (hd : schedule.Distinct) (hmem : life ∈ schedule.lifecycles) :
    schedule.lifecycle? life.name = some life :=
  (lifecycle?_eq_some hd).mpr ⟨hmem, rfl⟩

theorem stateOf?_eq_some (hd : schedule.Distinct) {p : ProcessName} {state : ProcessState} :
    schedule.stateOf? p = some state ↔
      ∃ life ∈ schedule.lifecycles, life.name = p ∧ life.state = state := by
  simp only [stateOf?, Option.map_eq_some_iff, lifecycle?_eq_some hd]
  constructor
  · rintro ⟨life, ⟨hmem, hname⟩, hstate⟩
    exact ⟨life, hmem, hname, hstate⟩
  · rintro ⟨life, hmem, hname, hstate⟩
    exact ⟨life, ⟨hmem, hname⟩, hstate⟩

theorem mem_inFlight {id : AttemptId} :
    id ∈ schedule.inFlight ↔ ∃ life ∈ schedule.lifecycles,
      life.name = id.process ∧ life.openAttempt? = some id.index := by
  simp only [inFlight, List.mem_filterMap, Option.map_eq_some_iff]
  constructor
  · rintro ⟨life, hmem, index, hopen, rfl⟩
    exact ⟨life, hmem, rfl, hopen⟩
  · rintro ⟨life, hmem, hname, hopen⟩
    exact ⟨life, hmem, id.index, hopen, by rw [hname]⟩

/-- Putting a lifecycle back replaces the entry of its name and nothing else. -/
theorem put_split (hd : schedule.Distinct) (hmem : life ∈ schedule.lifecycles)
    (hname : new.name = life.name) :
    ∃ front rest, schedule.lifecycles = front ++ life :: rest ∧
      (schedule.put new).lifecycles = front ++ new :: rest ∧
      ∀ other ∈ front ++ rest, other.name ≠ life.name := by
  obtain ⟨front, rest, hsplit⟩ := List.append_of_mem hmem
  have hothers : ∀ other ∈ front ++ rest, other.name ≠ life.name := by
    have hnodup := hd
    rw [Distinct, hsplit, List.map_append, List.map_cons, List.nodup_middle,
      List.nodup_cons, ← List.map_append] at hnodup
    intro other hother heq
    exact hnodup.1 (heq ▸ List.mem_map_of_mem hother)
  refine ⟨front, rest, hsplit, ?_, hothers⟩
  -- No other name agrees, so the rest of the list is mapped to itself.
  have hkeep : ∀ part : List Lifecycle, (∀ other ∈ part, other.name ≠ life.name) →
      part.map (fun old => if old.name = new.name then new else old) = part := by
    intro part hpart
    refine (List.map_congr_left fun old hold => ?_).trans (List.map_id part)
    rw [hname, if_neg (hpart old hold), id]
  simp only [put, hsplit, List.map_append, List.map_cons]
  rw [if_pos hname.symm, hkeep front fun other h => hothers other (List.mem_append_left _ h),
    hkeep rest fun other h => hothers other (List.mem_append_right _ h)]

theorem mem_put (hd : schedule.Distinct) (hmem : life ∈ schedule.lifecycles)
    (hname : new.name = life.name) {other : Lifecycle} :
    other ∈ (schedule.put new).lifecycles ↔
      other = new ∨ (other ∈ schedule.lifecycles ∧ other ≠ life) := by
  obtain ⟨front, rest, hsplit, hput, hothers⟩ := put_split hd hmem hname
  have hne : ∀ l ∈ front ++ rest, l ≠ life := fun l hl heq => hothers l hl (by rw [heq])
  rw [hput, hsplit]
  simp only [List.mem_append, List.mem_cons] at hne ⊢
  constructor
  · rintro (h | rfl | h)
    · exact Or.inr ⟨Or.inl h, hne other (Or.inl h)⟩
    · exact Or.inl rfl
    · exact Or.inr ⟨Or.inr (Or.inr h), hne other (Or.inr h)⟩
  · rintro (rfl | ⟨h | rfl | h, hother⟩)
    · exact Or.inr (Or.inl rfl)
    · exact Or.inl h
    · exact absurd rfl hother
    · exact Or.inr (Or.inr h)

/-- An entry after `put` is the new one or another one that was there. -/
theorem of_mem_put {other : Lifecycle} (hother : other ∈ (schedule.put new).lifecycles)
    (hd : schedule.Distinct) (hmem : life ∈ schedule.lifecycles) (hname : new.name = life.name) :
    other = new ∨ (other ∈ schedule.lifecycles ∧ other ≠ life) :=
  (mem_put hd hmem hname).mp hother

theorem mem_put_self (hd : schedule.Distinct) (hmem : life ∈ schedule.lifecycles)
    (hname : new.name = life.name) : new ∈ (schedule.put new).lifecycles :=
  (mem_put hd hmem hname).mpr (Or.inl rfl)

theorem put_map (hd : schedule.Distinct) (hmem : life ∈ schedule.lifecycles)
    (hname : new.name = life.name) {α : Type} (f : Lifecycle → α) (hf : f new = f life) :
    (schedule.put new).lifecycles.map f = schedule.lifecycles.map f := by
  obtain ⟨front, rest, hsplit, hput, _⟩ := put_split hd hmem hname
  simp [hput, hsplit, hf]

theorem put_sum (hd : schedule.Distinct) (hmem : life ∈ schedule.lifecycles)
    (hname : new.name = life.name) (f : Lifecycle → Nat) :
    ((schedule.put new).lifecycles.map f).sum + f life =
      (schedule.lifecycles.map f).sum + f new := by
  obtain ⟨front, rest, hsplit, hput, _⟩ := put_split hd hmem hname
  simp only [hput, hsplit, List.map_append, List.map_cons, List.sum_append, List.sum_cons]
  omega

theorem put_countP (hd : schedule.Distinct) (hmem : life ∈ schedule.lifecycles)
    (hname : new.name = life.name) (q : Lifecycle → Bool) :
    (schedule.put new).lifecycles.countP q + (if q life then 1 else 0) =
      schedule.lifecycles.countP q + if q new then 1 else 0 := by
  obtain ⟨front, rest, hsplit, hput, _⟩ := put_split hd hmem hname
  simp only [hput, hsplit, List.countP_append, List.countP_cons]
  omega

/-- Putting a listed lifecycle back changes nothing. -/
theorem put_self (hd : schedule.Distinct) (hmem : life ∈ schedule.lifecycles) :
    schedule.put life = schedule := by
  have hsame : schedule.lifecycles.map (fun old => if old.name = life.name then life else old) =
      schedule.lifecycles := by
    refine (List.map_congr_left fun old hold => ?_).trans (List.map_id _)
    split
    · next hname => exact (hd.eq_of_name hold hmem hname).symm
    · rfl
  rw [put, hsame]

theorem put_put (a b : Lifecycle) (h : a.name = b.name) :
    (schedule.put a).put b = schedule.put b := by
  simp only [put, List.map_map]
  congr 1
  refine List.map_congr_left fun old _ => ?_
  simp only [Function.comp_apply]
  by_cases hold : old.name = a.name
  · simp [hold, h]
  · simp [hold, h ▸ hold]

theorem Distinct.put (hd : schedule.Distinct) (hmem : life ∈ schedule.lifecycles)
    (hname : new.name = life.name) : (schedule.put new).Distinct := by
  rw [Distinct, put_map hd hmem hname _ hname]
  exact hd

end Schedule

end Overseer
