import Overseer.Proofs.Schedule.Dispatch
import Overseer.Proofs.Supervisor.History

/-!
# The outcome of a supervision

The result of a supervisor can be asked for at any time. Once the task is decided its
status is that of the decision, and if the supervisor was started before anything
else its statuses are the start and the decision. The runs that the result shows as
running are the attempts in flight.

Results:
1. `Fresh.statuses_of_decided`, `Fresh.result_of_decided`: statuses and status.
2. `openIds_perm`: the runs that are still running.
-/

namespace Overseer

/-- The attempts whose runs are shown as running. -/
def TaskResult.openIds (result : TaskResult) : List AttemptId :=
  ((result.processes.flatMap (·.2)).filter (·.state = .running)).map (·.id)

namespace Supervisor

variable {supervisor : Supervisor} {decision : Decision}

/-- A task that was started at `first` has that as its first status and the decision as
its second. -/
theorem Fresh.statuses_of_decided (h : supervisor.Fresh) {first : Instant} {calls : List Call}
    (hdecision : (supervisor.after (.start first :: calls)).schedule.decision = some decision) :
    ∃ later, (supervisor.after (.start first :: calls)).statuses =
      [⟨.active, first, none⟩, decision.statusEntry later] := by
  obtain ⟨hnext, hhead⟩ := h.start first
  have hbegun : (supervisor.apply (.start first)).1.statuses ≠ [] := by
    intro hnil
    rw [hnil] at hhead
    cases hhead
  have hhistory := (after_chronicled h.toChronicled (.start first :: calls)).history
  have hfirst : (supervisor.after (.start first :: calls)).statuses.head? =
      some ⟨.active, first, none⟩ := (after_head? calls hbegun).trans hhead
  rw [hdecision] at hhistory
  generalize (supervisor.after (.start first :: calls)).statuses = statuses at hhistory hfirst ⊢
  cases hhistory with
  | decided made now later =>
    cases hfirst
    exact ⟨later, rfl⟩
  | aborted now => cases hfirst

/-- The result of a decided task has the status of the decision. -/
theorem Fresh.result_of_decided (h : supervisor.Fresh) {first : Instant} {calls : List Call}
    (hdecision : (supervisor.after (.start first :: calls)).schedule.decision = some decision) :
    let result := (supervisor.after (.start first :: calls)).result
    ∃ later, result.statuses = [⟨.active, first, none⟩, decision.statusEntry later] ∧
      result.status = (decision.statusEntry later).status ∧ result.status.isTerminal = true ∧
      (result.status = .success ↔ decision = .success) := by
  obtain ⟨later, hstatuses⟩ := h.statuses_of_decided hdecision
  have hstatus : (supervisor.after (.start first :: calls)).result.status =
      (decision.statusEntry later).status := by
    rw [result, hstatuses]
    rfl
  refine ⟨later, hstatuses, hstatus, ?_, ?_⟩
  · rw [hstatus]
    exact Decision.statusEntry_isTerminal decision later
  · rw [hstatus]
    cases decision <;> simp [Decision.statusEntry]

theorem openIds_perm (h : supervisor.schedule.Sound) :
    supervisor.result.openIds.Perm supervisor.schedule.inFlight :=
  Schedule.openRuns_perm h.coherent

end Supervisor

end Overseer
