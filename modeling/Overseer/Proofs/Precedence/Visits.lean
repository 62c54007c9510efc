import Overseer.Precedence.Progress
import Mathlib.Data.List.Basic
import Mathlib.Logic.Relation

/-!
# What a walk visits

`visits` follows the successors of the names on a stack and lists the free names
that it meets. Each is listed once, can be reached from the stack, and brings its
own free successors with it; so a walk over all names lists exactly what can be
reached.

Results:
1. `visits_nodup`: no name is visited twice.
2. `reachable_of_mem_visits`: what is visited can be reached.
3. `mem_visits_of_leads`: what can be reached along free names is visited.
-/

namespace Overseer

variable {next : ProcessName → List ProcessName} {free stack : List ProcessName}
  {p q : ProcessName}

theorem free_of_mem_visits (h : q ∈ visits next free stack) : q ∈ free := by
  -- The cases are the steps of the walk: done, a free name on top, any other on top.
  fun_induction visits next free stack with
  | case1 free => cases h
  | case2 free top below hfree ih =>
    rcases List.mem_cons.mp h with rfl | h
    · exact hfree
    · exact List.mem_of_mem_erase (ih h)
  | case3 free top below _ ih => exact ih h

theorem visits_nodup (h : free.Nodup) : (visits next free stack).Nodup := by
  fun_induction visits next free stack with
  | case1 free => exact List.nodup_nil
  | case2 free top below hfree ih =>
    refine List.nodup_cons.mpr ⟨fun htop => ?_, ih (h.erase top)⟩
    exact h.not_mem_erase (free_of_mem_visits htop)
  | case3 free top below _ ih => exact ih h

/-- `q` is `p` or comes after it along successors. -/
abbrev Leads (next : ProcessName → List ProcessName) : ProcessName → ProcessName → Prop :=
  Relation.ReflTransGen fun a b => b ∈ next a

theorem reachable_of_mem_visits (h : q ∈ visits next free stack) :
    ∃ p ∈ stack, Leads next p q := by
  fun_induction visits next free stack with
  | case1 free => cases h
  | case2 free top below hfree ih =>
    rcases List.mem_cons.mp h with rfl | h
    · exact ⟨q, List.mem_cons_self, .refl⟩
    · obtain ⟨p, hp, hleads⟩ := ih h
      rcases List.mem_append.mp hp with hp | hp
      · exact ⟨top, List.mem_cons_self, .head (List.mem_reverse.mp hp) hleads⟩
      · exact ⟨p, List.mem_cons_of_mem _ hp, hleads⟩
  | case3 free top below _ ih =>
    obtain ⟨p, hp, hleads⟩ := ih h
    exact ⟨p, List.mem_cons_of_mem _ hp, hleads⟩

/-- A free name on the stack is visited. -/
theorem mem_visits_of_mem_stack (hstack : p ∈ stack) (hfree : p ∈ free) :
    p ∈ visits next free stack := by
  fun_induction visits next free stack with
  | case1 free => cases hstack
  | case2 free top below htop ih =>
    by_cases hsame : p = top
    · rw [hsame]
      exact List.mem_cons_self
    · have hbelow := (List.mem_cons.mp hstack).resolve_left hsame
      exact List.mem_cons_of_mem _ (ih (List.mem_append_right _ hbelow)
        ((List.mem_erase_of_ne hsame).mpr hfree))
  | case3 free top below htop ih =>
    refine ih ((List.mem_cons.mp hstack).resolve_left ?_) hfree
    rintro rfl
    exact htop hfree

/-- A free successor of a visited name is visited. -/
theorem mem_visits_of_mem_next (hp : p ∈ visits next free stack) (hnext : q ∈ next p)
    (hfree : q ∈ free) : q ∈ visits next free stack := by
  fun_induction visits next free stack with
  | case1 free => cases hp
  | case2 free top below htop ih =>
    by_cases hsame : q = top
    · rw [hsame]
      exact List.mem_cons_self
    -- The successors of the name on top are put on the stack for the rest of the walk.
    have hleft : q ∈ free.erase top := (List.mem_erase_of_ne hsame).mpr hfree
    refine List.mem_cons_of_mem _ ?_
    rcases List.mem_cons.mp hp with rfl | hp
    · exact mem_visits_of_mem_stack (List.mem_append_left _ (List.mem_reverse.mpr hnext)) hleft
    · exact ih hp hleft
  | case3 free top below _ ih => exact ih hp hfree

/-- The walk goes as far as the successors lead along free names. -/
theorem mem_visits_of_leads (hstack : p ∈ stack) (h : Leads next p q)
    (hfree : ∀ a, Leads next p a → Leads next a q → a ∈ free) : q ∈ visits next free stack := by
  induction h with
  | refl => exact mem_visits_of_mem_stack hstack (hfree p .refl .refl)
  | @tail a b hleads hnext ih =>
    have ha := ih fun c hpc hca => hfree c hpc (hca.tail hnext)
    exact mem_visits_of_mem_next ha hnext (hfree b (hleads.tail hnext) .refl)

end Overseer
