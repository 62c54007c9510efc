import Overseer.Rehearsal.Basic
import Overseer.Proofs.Session.Round

/-!
# What a rehearsal makes of requests

An attempt of a rehearsal is refused, or ends and sends its completion at once, or
hangs. A hanging attempt is silent: nothing more is heard of it unless it is stopped,
and then only if the script reports stops. Each attempt has the outcome that the script
foretells for it, where one that is refused or stopped has no exit code.

As long as the channel has room, requests add to the channel, to the hanging attempts
and to the list of stopped attempts, and leave the rest of the rehearsal as it was.

Results:
1. `prediction_of_silent`, `prediction_of_refused`: attempts without an exit code.
2. `startAll_onward`: starting attempts.
3. `stopAll_onward`: stopping attempts.
4. `carryOut_launches`, `carryOut_stops`: carrying a reaction out.
-/

namespace Overseer

/-! ## Scripts -/

namespace Script

variable (script : Script)

def refuses (id : AttemptId) : Bool := decide (id.process ∈ script.refused)

/-- Whether an attempt is started and then hangs. -/
def isSilent (id : AttemptId) : Bool := !script.refuses id && decide (script.cueFor id = .hang)

/-- The outcome of each attempt, should it come to an end. -/
def prediction : Prediction := fun id =>
  if script.refuses id then .noExitCode
  else
    match script.cueFor id with
    | .exit outcome => outcome
    | .hang => .noExitCode

variable {script} {id : AttemptId}

theorem isSilent_of_refused (h : script.refuses id = true) : script.isSilent id = false := by
  simp [isSilent, h]

theorem prediction_of_refused (h : script.refuses id = true) :
    script.prediction id = .noExitCode := by
  simp [prediction, h]

theorem prediction_of_silent (h : script.isSilent id = true) :
    script.prediction id = .noExitCode := by
  simp only [isSilent, Bool.and_eq_true, decide_eq_true_eq] at h
  simp [prediction, h.2]

end Script

/-- A message about an attempt that agrees with a prediction; one that could not be
started has no exit code. -/
def Message.Foretold (prediction : Prediction) : Message → Prop
  | .completed id report => prediction.Foretells id report
  | .startFailed id _ => prediction id = .noExitCode
  | .shutdown => False

namespace Message.Foretold

variable {prediction : Prediction} {message : Message}

/-- A foretold message is a completion that is foretold. -/
theorem exists_complete (h : message.Foretold prediction) (now : Instant) :
    ∃ id report, message.id? = some id ∧ message.operation now = .complete id report now ∧
      prediction.Foretells id report := by
  cases message with
  | completed id report => exact ⟨id, report, rfl, rfl, h⟩
  | startFailed id reason => exact ⟨id, .notStarted now, rfl, rfl, Eq.symm h⟩
  | shutdown => exact h.elim

end Message.Foretold

/-! ## Rehearsals that go on -/

namespace Rehearsal

variable {before middle after : Rehearsal} {sent more : List Message}

/-- The rehearsal has gone on, and more messages were sent. -/
structure Onward (before : Rehearsal) (sent : List Message) (after : Rehearsal) : Prop where
  script : after.script = before.script
  places : after.places = before.places
  staysOpen : after.staysOpen = before.staysOpen
  uptime : after.uptime = before.uptime
  going : after.atStandstill = false
  channel : after.channel = before.channel ++ sent

namespace Onward

theorem refl (going : before.atStandstill = false) : Onward before [] before :=
  ⟨rfl, rfl, rfl, rfl, going, (List.append_nil _).symm⟩

theorem trans (first : Onward before sent middle) (second : Onward middle more after) :
    Onward before (sent ++ more) after where
  script := second.script.trans first.script
  places := second.places.trans first.places
  staysOpen := second.staysOpen.trans first.staysOpen
  uptime := second.uptime.trans first.uptime
  going := second.going
  channel := by rw [second.channel, first.channel, List.append_assoc]

end Onward

theorem record_eq (event : Event) (going : before.atStandstill = false) :
    before.record event = { before with events := before.events ++ [event] } := by
  simp [record, going]

theorem recordAll_onward (events : List Event) (going : before.atStandstill = false) :
    Onward before [] (environment.recordAll events before) ∧
      (environment.recordAll events before).hung = before.hung ∧
      (environment.recordAll events before).stopped = before.stopped := by
  induction events generalizing before with
  | nil => exact ⟨.refl going, rfl, rfl⟩
  | cons event rest ih =>
    have hone : Onward before [] (before.record event) := by
      rw [record_eq event going]
      exact ⟨rfl, rfl, rfl, rfl, going, (List.append_nil _).symm⟩
    obtain ⟨hrest, hhung, hstopped⟩ := ih hone.going
    refine ⟨hone.trans hrest, hhung.trans ?_, hstopped.trans ?_⟩ <;>
      simp [record_eq event going]

theorem complete_onward (before : Rehearsal) (id : AttemptId) (outcome : Outcome)
    (going : before.atStandstill = false)
    (room : before.channel.length < before.places) :
    ∃ report, report.outcome = outcome ∧
      Onward before [.completed id report] (before.complete id outcome) ∧
      (before.complete id outcome).hung = before.hung ∧
      (before.complete id outcome).stopped = before.stopped := by
  refine ⟨⟨outcome, before.readClock.1,
    before.readClock.1.later (before.script.durationOf id.process)⟩, rfl, ?_⟩
  have hroom : before.readClock.2.channel.length < before.readClock.2.places := room
  rw [complete]
  simp only [hroom, if_true]
  exact ⟨⟨rfl, rfl, rfl, rfl, going, rfl⟩, rfl, rfl⟩

/-! ## Starting attempts -/

/-- What a request to start an attempt comes to while the channel has room. -/
inductive Start (attempt : Attempt) (before : Rehearsal) :
    Except String Unit × Rehearsal → Prop
  | refused (refuses : before.script.refuses attempt.id = true) :
      Start attempt before (.error (refusal attempt.id.process), before)
  | hangs {after : Rehearsal} (silent : before.script.isSilent attempt.id = true)
      (onward : Onward before [] after) (hung : after.hung = attempt.id :: before.hung)
      (stopped : after.stopped = before.stopped) : Start attempt before (.ok (), after)
  | ends {after : Rehearsal} (report : Report)
      (audible : before.script.isSilent attempt.id = false)
      (foretold : before.script.prediction.Foretells attempt.id report)
      (onward : Onward before [.completed attempt.id report] after)
      (hung : after.hung = before.hung) (stopped : after.stopped = before.stopped) :
      Start attempt before (.ok (), after)

theorem startAttempt_start (attempt : Attempt) (going : before.atStandstill = false)
    (room : before.channel.length < before.places) :
    Start attempt before (startAttempt attempt before) := by
  rw [startAttempt, if_neg (by simp [going])]
  cases hrefuses : before.script.refuses attempt.id with
  | true =>
    rw [if_pos (by simpa [Script.refuses] using hrefuses)]
    exact .refused hrefuses
  | false =>
    rw [if_neg (by simpa [Script.refuses] using hrefuses)]
    cases hcue : before.script.cueFor attempt.id with
    | exit outcome =>
      obtain ⟨report, houtcome, honward, hhung, hstopped⟩ := complete_onward
        { before with launched := before.launched ++ [attempt] } attempt.id outcome going room
      simp only
      refine .ends report (by simp [Script.isSilent, hcue]) ?_
        ⟨honward.script, honward.places, honward.staysOpen, honward.uptime, honward.going,
          honward.channel⟩ hhung hstopped
      simp [Prediction.Foretells, Script.prediction, hrefuses, hcue, houtcome]
    | hang =>
      simp only
      exact .hangs (by simp [Script.isSilent, hrefuses, hcue])
        ⟨rfl, rfl, rfl, rfl, going, (List.append_nil _).symm⟩ rfl rfl

/-- Of the attempts that are started, those that do not hang give a message each,
refused ones at once and the others through the channel. -/
theorem startAll_onward (attempts : List Attempt) (going : before.atStandstill = false)
    (room : before.channel.length + attempts.length ≤ before.places) :
    let ids := attempts.map (·.id)
    let result := environment.startAll attempts before
    ∃ sent, Onward before sent result.2 ∧
      ((result.1 ++ sent).filterMap (·.id?)).Perm (ids.filter (!before.script.isSilent ·)) ∧
      (∀ message ∈ result.1 ++ sent, message.Foretold before.script.prediction) ∧
      result.2.hung.Perm (before.hung ++ ids.filter before.script.isSilent) ∧
      result.2.stopped = before.stopped := by
  induction attempts generalizing before with
  | nil => exact ⟨[], .refl going, by simp [Environment.startAll]⟩
  | cons attempt rest ih =>
    rw [List.length_cons] at room
    have hstart : Start attempt before (environment.start attempt before) :=
      startAttempt_start attempt going (by omega)
    rcases hresult : environment.start attempt before with ⟨answer, next⟩
    rw [hresult] at hstart
    simp only [Environment.startAll, hresult]
    cases hstart with
    | refused refuses =>
      obtain ⟨sent, honward, hids, hforetold, hhung, hstopped⟩ := ih going (by omega)
      have haudible := Script.isSilent_of_refused refuses
      refine ⟨sent, honward, ?_, ?_, ?_, hstopped⟩
      · simpa [haudible] using hids
      · refine List.forall_mem_cons.mpr ⟨?_, hforetold⟩
        exact Script.prediction_of_refused refuses
      · simpa [haudible] using hhung
    | hangs silent onward hung stopped =>
      obtain ⟨sent, honward, hids, hforetold, hhung, hstopped⟩ := ih onward.going
        (by rw [onward.channel, onward.places, List.append_nil]; omega)
      rw [onward.script] at hids hforetold hhung
      refine ⟨sent, onward.trans honward, ?_, hforetold, ?_, hstopped.trans stopped⟩
      · simpa [silent] using hids
      · rw [hung] at hhung
        simpa [silent] using hhung.trans List.perm_middle.symm
    | ends report audible foretold onward hung stopped =>
      obtain ⟨sent, honward, hids, hforetold, hhung, hstopped⟩ := ih onward.going
        (by rw [onward.channel, onward.places, List.length_append, List.length_singleton]; omega)
      rw [onward.script] at hids hforetold hhung
      refine ⟨.completed attempt.id report :: sent, onward.trans honward, ?_, ?_, ?_,
        hstopped.trans stopped⟩
      · rw [List.filterMap_append] at hids
        simpa [audible] using List.perm_middle.trans (hids.cons attempt.id)
      · intro message hmem
        rcases List.mem_cons.mp (List.perm_middle.mem_iff.mp hmem) with rfl | hmem
        · exact foretold
        · exact hforetold message hmem
      · rw [hung] at hhung
        simpa [audible] using hhung

/-! ## Stopping attempts -/

/-- A stop is noted down, and makes a hanging attempt end if the script reports stops. -/
theorem stopAttempt_onward (id : AttemptId) (going : before.atStandstill = false)
    (silent : id ∈ before.hung → before.script.isSilent id = true)
    (room : id ∈ before.hung → before.channel.length < before.places) :
    ∃ sent, Onward before sent (before.stopAttempt id) ∧
      sent.filterMap (·.id?) =
        (if before.script.reportsStops then [id].filter (· ∈ before.hung) else []) ∧
      (∀ message ∈ sent, message.Foretold before.script.prediction) ∧
      sent.length ≤ ([id].filter (· ∈ before.hung)).length ∧
      (before.stopAttempt id).hung = before.hung.erase id ∧
      (before.stopAttempt id).stopped = before.stopped ++ [id] := by
  rw [stopAttempt, if_neg (by simp [going])]
  by_cases hhung : id ∈ before.hung
  · simp only [hhung, if_true]
    cases hreports : before.script.reportsStops with
    | true =>
      obtain ⟨report, houtcome, honward, hlater, hstopped⟩ := complete_onward
        { before with stopped := before.stopped ++ [id], hung := before.hung.erase id }
        id .noExitCode going (room hhung)
      refine ⟨[.completed id report],
        ⟨honward.script, honward.places, honward.staysOpen, honward.uptime, honward.going,
          honward.channel⟩,
        by simp [hhung], ?_, by simp [hhung], hlater, hstopped⟩
      refine List.forall_mem_singleton.mpr ?_
      exact houtcome.trans (Script.prediction_of_silent (silent hhung)).symm
    | false =>
      exact ⟨[], ⟨rfl, rfl, rfl, rfl, going, (List.append_nil _).symm⟩, rfl, by simp,
        Nat.zero_le _, rfl, rfl⟩
  · simp only [hhung, if_false]
    exact ⟨[], ⟨rfl, rfl, rfl, rfl, going, (List.append_nil _).symm⟩, by simp [hhung], by simp,
      Nat.zero_le _, (List.erase_of_not_mem hhung).symm, trivial⟩

theorem stopAll_onward (ids : List AttemptId) (distinct : ids.Nodup)
    (going : before.atStandstill = false)
    (silent : ∀ id ∈ before.hung, before.script.isSilent id = true)
    (room : before.channel.length + (ids.filter (· ∈ before.hung)).length ≤ before.places) :
    let result := ids.foldl stopAttempt before
    ∃ sent, Onward before sent result ∧
      sent.filterMap (·.id?) =
        (if before.script.reportsStops then ids.filter (· ∈ before.hung) else []) ∧
      (∀ message ∈ sent, message.Foretold before.script.prediction) ∧
      result.stopped = before.stopped ++ ids := by
  induction ids generalizing before with
  | nil => exact ⟨[], .refl going, by simp⟩
  | cons id rest ih =>
    obtain ⟨hnew, hrest⟩ := List.nodup_cons.mp distinct
    have hsplit : (id :: rest).filter (· ∈ before.hung) =
        [id].filter (· ∈ before.hung) ++ rest.filter (· ∈ before.hung) :=
      List.filter_append [id] rest
    rw [hsplit, List.length_append] at room
    obtain ⟨sent, honward, hids, hforetold, hlength, hhung, hstopped⟩ :=
      stopAttempt_onward id going (silent id) fun hmem => by simp [hmem] at room; omega
    -- The others are hanging after the first stop just if they were before it.
    have hsame : rest.filter (· ∈ before.hung.erase id) = rest.filter (· ∈ before.hung) := by
      refine List.filter_congr fun other hother => ?_
      have hne : other ≠ id := fun heq => hnew (heq ▸ hother)
      simp [List.mem_erase_of_ne hne]
    obtain ⟨more, hmore, hmoreIds, hmoreForetold, hmoreStopped⟩ := ih hrest honward.going
      (fun other hother => by
        rw [hhung] at hother
        rw [honward.script]
        exact silent other (List.mem_of_mem_erase hother))
      (by rw [hhung, hsame, honward.channel, honward.places, List.length_append]; omega)
    rw [hhung, hsame, honward.script] at hmoreIds
    rw [honward.script] at hmoreForetold
    refine ⟨sent ++ more, honward.trans hmore, ?_, ?_, ?_⟩
    · rw [List.filterMap_append, hids, hmoreIds, hsplit]
      split <;> rfl
    · exact fun message hmem =>
        (List.mem_append.mp hmem).elim (hforetold message) (hmoreForetold message)
    · rw [List.foldl_cons, hmoreStopped, hstopped, List.append_assoc, List.singleton_append]

/-! ## Reactions -/

/-- What carrying a reaction out comes to: messages about `ids` are new, some of them
`sent` through the channel, and `stopped` were stopped. -/
structure Carried (before : Rehearsal) (ids stopped : List AttemptId) (sent : List Message)
    (result : List Message × Rehearsal) : Prop where
  onward : Onward before sent result.2
  ids : ((result.1 ++ sent).filterMap (·.id?)).Perm ids
  foretold : ∀ message ∈ result.1 ++ sent, message.Foretold before.script.prediction
  stopped : result.2.stopped = before.stopped ++ stopped

variable {reaction : Reaction} {step : Step}

theorem carryOut_launches (before : Rehearsal) (h : reaction.commands = step.commands)
    (unstopping : step.toStop = [])
    (going : before.atStandstill = false)
    (room : before.channel.length + step.launched.length ≤ before.places) :
    ∃ sent, Carried before (step.launchedIds.filter (!before.script.isSilent ·)) [] sent
        (environment.carryOut reaction before) ∧
      (environment.carryOut reaction before).2.hung.Perm
        (before.hung ++ step.launchedIds.filter before.script.isSilent) := by
  obtain ⟨hrecord, hhung, hstopped⟩ := recordAll_onward reaction.events going
  rw [environment.carryOut_commands h, if_pos unstopping]
  obtain ⟨sent, honward, hids, hforetold, hhanging, hunstopped⟩ :=
    startAll_onward step.launched hrecord.going
      (by rw [hrecord.channel, hrecord.places, List.append_nil]; exact room)
  rw [hrecord.script] at hids hforetold hhanging
  rw [hhung] at hhanging
  exact ⟨sent, ⟨hrecord.trans honward, hids, hforetold,
    (hunstopped.trans hstopped).trans (List.append_nil _).symm⟩, hhanging⟩

theorem carryOut_stops (before : Rehearsal) (h : reaction.commands = step.commands)
    (unlaunching : step.launched = [])
    (distinct : step.toStop.Nodup) (going : before.atStandstill = false)
    (silent : ∀ id ∈ before.hung, before.script.isSilent id = true)
    (room : before.channel.length + (step.toStop.filter (· ∈ before.hung)).length ≤
      before.places) :
    ∃ sent, Carried before
      (if before.script.reportsStops then step.toStop.filter (· ∈ before.hung) else [])
      step.toStop sent (environment.carryOut reaction before) := by
  obtain ⟨hrecord, hhung, hstopped⟩ := recordAll_onward reaction.events going
  obtain ⟨sent, honward, hids, hforetold, hall⟩ :=
    stopAll_onward step.toStop distinct hrecord.going
      (by rw [hhung, hrecord.script]; exact silent)
      (by rw [hhung, hrecord.channel, hrecord.places, List.append_nil]; exact room)
  rw [hhung, hrecord.script] at hids
  rw [hrecord.script] at hforetold
  rw [hstopped] at hall
  have hcarried : environment.carryOut reaction before =
      ([], step.toStop.foldl stopAttempt (environment.recordAll reaction.events before)) := by
    rw [environment.carryOut_commands h, unlaunching]
    cases step.toStop <;> rfl
  rw [hcarried]
  exact ⟨sent, hrecord.trans honward, List.Perm.of_eq hids, hforetold, hall⟩

end Rehearsal

end Overseer
