import Overseer.Proofs.Schedule.Attempts

/-!
# Growth of the history

The history of a task only grows. An operation keeps all runs there are, in their
places: it closes at most one of them, appends others, and leaves those that are closed
as they are. The states of the processes move forward. What changed can be read off the
schedules before and after, process by process: `Schedule.endings` are the ends of the
runs that were closed and `Schedule.additions` the launches of those that were appended.
The transitions of the step are these, each once.

An operation moves a process at most once (`Lifecycle.Move`), although it makes several
changes: after the first, which follows up a completion, only pending processes are
launched, and these the first change did not touch.

Results:
1. `Move.grows`: what a move does to the runs and the state of a process.
2. `Effect.growth`, `Growth.andThen`, `apply_growth`: what one operation moves, and that
   it announces just this.
3. `Reachable.history_grows`: the same, said without moves.
4. `Reachable.history_extends`: what any number of operations keep.
-/

namespace Overseer

/-- Lists that are related entry by entry are so in two stages. -/
theorem forall₂_trans {α : Type} {P Q R : α → α → Prop} {as bs cs : List α}
    (first : List.Forall₂ P as bs) (second : List.Forall₂ Q bs cs)
    (htrans : ∀ a b c, P a b → Q b c → R a c) : List.Forall₂ R as cs := by
  induction first generalizing cs with
  | nil => cases second; exact .nil
  | cons head _ ih =>
    cases second with
    | cons head' tail' => exact .cons (htrans _ _ _ head head') (ih tail')

/-! ## What was, later on -/

/-- One step forward in the life of a process. -/
inductive ProcessState.Next : ProcessState → ProcessState → Prop
  | launched : Next .pending .running
  | succeeded : Next .running .success
  | failed : Next .running .failed

/-- A run later on: unchanged, or closed if it was open. -/
inductive Run.Later (minDuration : Span) (run : Run) : Run → Prop
  | same : Later minDuration run run
  | closed (isOpen : run.isOpen = true) (report : Report) :
      Later minDuration run (run.close report minDuration)

theorem Run.Later.trans {minDuration : Span} {a b c : Run} (first : a.Later minDuration b)
    (second : b.Later minDuration c) : a.Later minDuration c := by
  cases first with
  | same => exact second
  | closed isOpen report =>
    cases second with
    | same => exact .closed isOpen report
    | closed hopen _ => cases hopen

/-- The end of a run that was open before and is closed after. -/
def Run.ending? (before after : Run) : Option Transition :=
  match before.phase, after.phase with
  | .inFlight _, .ended report _ => some (.closing after.id report)
  | _, _ => none

@[simp] theorem Run.ending?_self (run : Run) : run.ending? run = none := by
  obtain ⟨id, phase⟩ := run
  cases phase <;> rfl

theorem Run.ending?_close {run : Run} (isOpen : run.isOpen = true) (report : Report)
    (minDuration : Span) :
    run.ending? (run.close report minDuration) = some (.closing run.id report) := by
  obtain ⟨id, phase⟩ := run
  cases phase with
  | inFlight now => rfl
  | ended report met => cases isOpen

/-- The ends of the runs that are open in `before` and closed in their places in `after`. -/
def Run.endings (before after : List Run) : List Transition :=
  (before.zip after).filterMap fun pair => pair.1.ending? pair.2

/-- Runs that stay as they are have no end. -/
theorem Run.endings_append (earlier before after : List Run) :
    endings (earlier ++ before) (earlier ++ after) = endings before after := by
  induction earlier with
  | nil => rfl
  | cons run rest ih =>
    rw [endings, List.cons_append, List.cons_append, List.zip_cons_cons, List.filterMap_cons,
      ending?_self]
    exact ih

namespace Lifecycle

/-- `new` is the process `old` later on: no run is gone or moved, none that was closed is
altered, and the state went forward. -/
structure Extends (old new : Lifecycle) : Prop where
  spec : new.spec = old.spec
  kept : List.Forall₂ (Run.Later old.spec.minDuration) old.runs (new.runs.take old.runs.length)
  forward : Relation.ReflTransGen ProcessState.Next old.state new.state
  terminal : old.state.isTerminal = true → new = old

/-- What one operation does to a process. -/
structure Grows (op : Operation) (old new : Lifecycle) : Prop extends old.Extends new where
  added : ∀ run ∈ new.runs.drop old.runs.length, run.isOpen = true
  /-- The state moves at most one step. -/
  once : Relation.ReflGen ProcessState.Next old.state new.state
  /-- Only pending processes and the one whose attempt is completed are changed. -/
  touched : new = old ∨ old.state = .pending ∨
    ∃ index report now more, op = .complete ⟨old.name, index⟩ report now ∧
      old.openAttempt? = some index ∧ new.runs = old.closedRuns report ++ more

/-- The ends of the runs of `old` that are closed in `new`. -/
def endings (old new : Lifecycle) : List Transition := Run.endings old.runs new.runs

/-- The launches of the runs that `new` has more than `old`. -/
def additions (old new : Lifecycle) : List Transition :=
  (new.runs.drop old.runs.length).map fun run => Transition.launch run.id run.startedAt

theorem Extends.refl (life : Lifecycle) : life.Extends life where
  spec := rfl
  kept := by
    rw [List.take_length]
    exact List.forall₂_same.mpr fun _ _ => .same
  forward := .refl
  terminal _ := rfl

theorem Extends.trans {a b c : Lifecycle} (first : a.Extends b) (second : b.Extends c) :
    a.Extends c where
  spec := second.spec.trans first.spec
  kept := by
    have hlength : a.runs.length ≤ b.runs.length := by
      have h := first.kept.length_eq
      rw [List.length_take] at h
      omega
    have hlater := List.forall₂_take a.runs.length second.kept
    rw [List.take_take, Nat.min_eq_left hlength, first.spec] at hlater
    exact forall₂_trans first.kept hlater fun _ _ _ => Run.Later.trans
  forward := first.forward.trans second.forward
  terminal hterminal := by
    have hsame := first.terminal hterminal
    rw [hsame] at second
    exact second.terminal hterminal

/-! ## Moves -/

/-- What an operation may do to a process: nothing, launch it for the first time, end
its attempt in flight, or end it and launch the next one. -/
inductive Move (op : Operation) (old : Lifecycle) : Lifecycle → Prop
  | stay : Move op old old
  | begin (now : Instant) (pending : old.state = .pending) : Move op old (old.opened now)
  | finish {new : Lifecycle} (index : UInt32) (report : Report) (now : Instant)
      (call : op = .complete ⟨old.name, index⟩ report now)
      (opened : old.openAttempt? = some index) (spec : new.spec = old.spec)
      (runs : new.runs = old.closedRuns report) (state : new.state ≠ .pending) : Move op old new
  | retry (index : UInt32) (report : Report) (now : Instant)
      (call : op = .complete ⟨old.name, index⟩ report now)
      (opened : old.openAttempt? = some index) :
      Move op old ((old.tolerated report).opened now)

variable {op : Operation} {old mid new : Lifecycle} {now : Instant}

/-- A launch comes last: what it moves was not moved before. -/
theorem Move.before_launch (first : old.Move op mid) (second : mid.Move (.start now) new) :
    mid = old ∨ new = mid := by
  cases second with
  | stay => exact Or.inr rfl
  | finish _ _ _ call | retry _ _ _ call => cases call
  | begin now pending =>
    cases first with
    | stay => exact Or.inl rfl
    | begin _ _ | retry _ _ _ _ _ => cases pending
    | finish _ _ _ _ _ _ _ state => exact absurd pending state

/-- A launch of a pending process may come in the course of any operation. -/
theorem Move.of_start (move : old.Move (.start now) new) (op : Operation) : old.Move op new := by
  cases move with
  | stay => exact .stay
  | begin now pending => exact .begin now pending
  | finish _ _ _ call | retry _ _ _ call => cases call

theorem Move.launching (first : old.Move op mid) (second : mid.Move (.start now) new) :
    old.Move op new := by
  rcases first.before_launch second with rfl | rfl
  · exact second.of_start op
  · exact first

/-! ## What a move changes -/

theorem endings_self (life : Lifecycle) : life.endings life = [] := by
  have h := Run.endings_append life.runs [] []
  rwa [List.append_nil] at h

theorem additions_self (life : Lifecycle) : life.additions life = [] := by
  rw [additions, List.drop_length, List.map_nil]

theorem endings_opened (life : Lifecycle) (now : Instant) :
    life.endings (life.opened now) = [] := by
  have h := Run.endings_append life.runs [] [Run.launched life.nextId now]
  rwa [List.append_nil] at h

theorem additions_opened (life : Lifecycle) (now : Instant) :
    life.additions (life.opened now) = [Transition.launch life.nextId now] := by
  rw [additions, opened, List.drop_left]
  rfl

/-- What is read off a process whose attempt in flight ended, with `more` runs after it. -/
theorem changes_of_closed (h : old.Coherent) {index : UInt32} {report : Report}
    (hopen : old.openAttempt? = some index) {more : List Run}
    (hruns : new.runs = old.closedRuns report ++ more) :
    old.endings new = [Transition.closing ⟨old.name, index⟩ report] ∧
      new.runs.drop old.runs.length = more ∧
      List.Forall₂ (Run.Later old.spec.minDuration) old.runs
        (new.runs.take old.runs.length) := by
  obtain ⟨earlier, last, hflight⟩ := h.inFlight hopen
  have hlength : old.runs.length = (old.closedRuns report).length := by
    rw [hflight.closedRuns, hflight.runs, List.length_append, List.length_append]
    rfl
  refine ⟨?_, ?_, ?_⟩
  · rw [endings, hruns, hflight.closedRuns, hflight.runs, List.append_assoc, Run.endings_append,
      ← hflight.id]
    simp [Run.endings, Run.ending?_close hflight.isOpen]
  · rw [hruns, hlength, List.drop_left]
  · rw [hruns, hlength, List.take_left, hflight.closedRuns, hflight.runs]
    refine List.rel_append (List.forall₂_same.mpr fun _ _ => .same) ?_
    exact .cons (.closed hflight.isOpen report) .nil

theorem Move.touched (move : old.Move op new) : new = old ∨ old.state = .pending ∨
    ∃ index report now more, op = .complete ⟨old.name, index⟩ report now ∧
      old.openAttempt? = some index ∧ new.runs = old.closedRuns report ++ more := by
  cases move with
  | stay => exact Or.inl rfl
  | begin now pending => exact Or.inr (Or.inl pending)
  | finish index report now call opened _ runs _ =>
    have hruns := runs.trans (List.append_nil _).symm
    exact Or.inr (Or.inr ⟨index, report, now, [], call, opened, hruns⟩)
  | retry index report now call opened =>
    exact Or.inr (Or.inr ⟨index, report, now, _, call, opened, rfl⟩)

theorem Move.terminal (h : old.Coherent) (move : old.Move op new)
    (hterminal : old.state.isTerminal = true) : new = old := by
  rcases move.touched with hsame | hpending | ⟨_, _, _, _, _, hopen, _⟩
  · exact hsame
  · rw [hpending] at hterminal
    cases hterminal
  · rw [h.running_of_openAttempt? hopen] at hterminal
    cases hterminal

theorem Move.once (h : old.Coherent) (move : old.Move op new) :
    Relation.ReflGen ProcessState.Next old.state new.state := by
  cases move with
  | stay => exact .refl
  | begin now pending =>
    rw [pending]
    exact .single .launched
  | finish index _ _ _ hopen _ _ state =>
    rw [h.running_of_openAttempt? hopen]
    cases hstate : new.state with
    | pending => exact absurd hstate state
    | running => exact .refl
    | success => exact .single .succeeded
    | failed => exact .single .failed
  | retry index _ _ _ hopen =>
    rw [h.running_of_openAttempt? hopen]
    exact .refl

theorem Move.spec (move : old.Move op new) : new.spec = old.spec := by
  cases move with
  | stay | begin _ _ | retry _ _ _ _ _ => rfl
  | finish _ _ _ _ _ spec _ _ => exact spec

theorem Move.runs (h : old.Coherent) (move : old.Move op new) :
    List.Forall₂ (Run.Later old.spec.minDuration) old.runs (new.runs.take old.runs.length) ∧
      ∀ run ∈ new.runs.drop old.runs.length, run.isOpen = true := by
  cases move with
  | stay => exact ⟨(Extends.refl old).kept, by simp⟩
  | begin now _ =>
    rw [opened, List.take_left, List.drop_left]
    exact ⟨List.forall₂_same.mpr fun _ _ => .same, by simp⟩
  | finish index report _ _ hopen _ runs _ =>
    obtain ⟨_, hadded, hkept⟩ := changes_of_closed h hopen (runs.trans (List.append_nil _).symm)
    exact ⟨hkept, by simp [hadded]⟩
  | retry index report now _ hopen =>
    obtain ⟨_, hadded, hkept⟩ := changes_of_closed h hopen
      (show ((old.tolerated report).opened now).runs = _ from rfl)
    exact ⟨hkept, by simp [hadded]⟩

theorem Move.grows (h : old.Coherent) (move : old.Move op new) : old.Grows op new where
  spec := move.spec
  kept := (move.runs h).1
  forward := (move.once h).to_reflTransGen
  terminal := move.terminal h
  added := (move.runs h).2
  once := move.once h
  touched := move.touched

/-- A launch ends nothing. -/
theorem Move.endings_of_start (move : old.Move (.start now) new) : old.endings new = [] := by
  cases move with
  | stay => exact endings_self old
  | begin now _ => exact endings_opened old now
  | finish _ _ _ call | retry _ _ _ call => cases call

end Lifecycle

/-! ## Growth of a schedule -/

namespace Schedule

/-- The ends of the runs of `s` that are closed in `t`. -/
def endings (s t : Schedule) : List Transition :=
  (List.zipWith Lifecycle.endings s.lifecycles t.lifecycles).flatten

/-- The launches of the runs that `t` has more than `s`, in declaration order. -/
def additions (s t : Schedule) : List Transition :=
  (List.zipWith Lifecycle.additions s.lifecycles t.lifecycles).flatten

/-- `Growth op s step t`: in the course of `op`, the processes of `s` were each moved at
most once, to where they are in `t`, and `step` announces what that changed. -/
structure Growth (op : Operation) (s : Schedule) (step : Step) (t : Schedule) : Prop where
  moves : List.Forall₂ (Lifecycle.Move op) s.lifecycles t.lifecycles
  single : (s.endings t).length ≤ 1
  announced : ∃ launches, step.transitions = s.endings t ++ launches ∧
    launches.Perm (s.additions t)

section Reading

variable {op : Operation} {now : Instant} {read : Lifecycle → Lifecycle → List Transition}

theorem flatten_zipWith_self (hself : ∀ life, read life life = []) (lives : List Lifecycle) :
    (List.zipWith read lives lives).flatten = [] := by
  induction lives with
  | nil => rfl
  | cons life rest ih => rw [List.zipWith_cons_cons, List.flatten_cons, hself, ih, List.append_nil]

/-- What is read off a list with one entry replaced is read off that entry. -/
theorem flatten_zipWith_replaced (hself : ∀ life, read life life = [])
    (front rest : List Lifecycle) (old new : Lifecycle) :
    (List.zipWith read (front ++ old :: rest) (front ++ new :: rest)).flatten = read old new := by
  rw [List.zipWith_append rfl, List.flatten_append, flatten_zipWith_self hself,
    List.zipWith_cons_cons, List.flatten_cons, flatten_zipWith_self hself, List.append_nil,
    List.nil_append]

theorem moves_self (op : Operation) (lives : List Lifecycle) :
    List.Forall₂ (Lifecycle.Move op) lives lives :=
  List.forall₂_same.mpr fun _ _ => .stay

/-- Launches that follow other moves leave what those ended. -/
theorem endings_launching {olds mids news : List Lifecycle}
    (first : List.Forall₂ (Lifecycle.Move op) olds mids)
    (second : List.Forall₂ (Lifecycle.Move (.start now)) mids news) :
    (List.zipWith Lifecycle.endings olds news).flatten =
      (List.zipWith Lifecycle.endings olds mids).flatten := by
  induction first generalizing news with
  | nil => rfl
  | @cons old mid _ _ move _ ih =>
    cases second with
    | @cons _ new _ _ launch launches =>
      have hhead : old.endings new = old.endings mid := by
        rcases move.before_launch launch with rfl | rfl
        · rw [launch.endings_of_start, Lifecycle.endings_self]
        · rfl
      rw [List.zipWith_cons_cons, List.zipWith_cons_cons, List.flatten_cons, List.flatten_cons,
        hhead, ih launches]

/-- Launches that follow other moves add to what those appended. -/
theorem additions_launching {olds mids news : List Lifecycle}
    (first : List.Forall₂ (Lifecycle.Move op) olds mids)
    (second : List.Forall₂ (Lifecycle.Move (.start now)) mids news) :
    ((List.zipWith Lifecycle.additions olds mids).flatten ++
      (List.zipWith Lifecycle.additions mids news).flatten).Perm
      (List.zipWith Lifecycle.additions olds news).flatten := by
  induction first generalizing news with
  | nil => cases second; exact .refl _
  | @cons old mid _ _ move _ ih =>
    cases second with
    | @cons _ new _ _ launch launches =>
      have htail := ih launches
      simp only [List.zipWith_cons_cons, List.flatten_cons]
      -- Either the launch or what came before it moves the process, never both.
      rcases move.before_launch launch with rfl | rfl
      · rw [Lifecycle.additions_self, List.nil_append]
        exact (List.perm_append_comm_assoc _ _ _).trans (htail.append_left _)
      · rw [Lifecycle.additions_self, List.nil_append, List.append_assoc]
        exact htail.append_left _

end Reading

variable {op : Operation} {s t u : Schedule} {now : Instant}

theorem endings_same (h : t.lifecycles = s.lifecycles) : s.endings t = [] := by
  rw [endings, h, flatten_zipWith_self Lifecycle.endings_self]

theorem additions_same (h : t.lifecycles = s.lifecycles) : s.additions t = [] := by
  rw [additions, h, flatten_zipWith_self Lifecycle.additions_self]

/-- A schedule that keeps its processes has grown by nothing. -/
theorem Growth.of_same {step : Step} (h : t.lifecycles = s.lifecycles)
    (htransitions : step.transitions = []) : Growth op s step t where
  moves := h ▸ moves_self op s.lifecycles
  single := by rw [endings_same h]; exact Nat.zero_le 1
  announced := ⟨[], by rw [htransitions, endings_same h]; rfl, by rw [additions_same h]⟩

/-- A schedule in which one process is moved has grown by what that changes. -/
theorem Growth.of_move {step : Step} {life new : Lifecycle} (hd : s.Distinct)
    (hmem : life ∈ s.lifecycles) (move : life.Move op new) (hname : new.name = life.name)
    (hlives : t.lifecycles = (s.put new).lifecycles) (single : (life.endings new).length ≤ 1)
    (htransitions : step.transitions = life.endings new ++ life.additions new) :
    Growth op s step t := by
  obtain ⟨front, rest, hsplit, hput, _⟩ := put_split hd hmem hname
  rw [hput] at hlives
  have hendings : s.endings t = life.endings new := by
    rw [endings, hsplit, hlives, flatten_zipWith_replaced Lifecycle.endings_self]
  have hadditions : s.additions t = life.additions new := by
    rw [additions, hsplit, hlives, flatten_zipWith_replaced Lifecycle.additions_self]
  refine ⟨?_, hendings ▸ single, life.additions new, hendings ▸ htransitions, by rw [hadditions]⟩
  rw [hsplit, hlives]
  exact List.rel_append (moves_self op front) (.cons move (moves_self op rest))

/-- Launches come after what else an operation moves. -/
theorem Growth.andThen {first second : Step} (before : Growth op s first t)
    (launches : Growth (.start now) t second u) : Growth op s (first.andThen second) u := by
  have hendings : s.endings u = s.endings t := endings_launching before.moves launches.moves
  have hnone : t.endings u = [] := by
    rw [endings, endings_launching (moves_self op t.lifecycles) launches.moves,
      flatten_zipWith_self Lifecycle.endings_self]
  obtain ⟨opened, hfirst, hopened⟩ := before.announced
  obtain ⟨more, hsecond, hmore⟩ := launches.announced
  have hmoves := forall₂_trans before.moves launches.moves fun _ _ _ => Lifecycle.Move.launching
  refine ⟨hmoves, hendings ▸ before.single, opened ++ more, ?_, ?_⟩
  · rw [Step.andThen_transitions, hfirst, hsecond, hnone, hendings, List.nil_append,
      List.append_assoc]
  · exact (hopened.append hmore).trans (additions_launching before.moves launches.moves)

end Schedule

open Schedule in
theorem Effect.growth {op : Operation} {s t : Schedule} {step : Step} (effect : Effect op s step t)
    (hs : s.Coherent) (ht : t.Coherent) : Growth op s step t := by
  have hd := hs.distinct
  cases effect with
  | launched life now mem ready lives _ transitions _ =>
    have hpending := ((isReady_iff _ _).mp ready).1
    refine .of_move hd mem (.begin now hpending) rfl lives ?_ ?_
    · rw [Lifecycle.endings_opened]
      exact Nat.zero_le 1
    · rw [Lifecycle.endings_opened, Lifecycle.additions_opened, transitions,
        (hs.lifecycles life mem).nextId_of_pending hpending]
      rfl
  | closed life new index report now call mem opened spec runs lives _ transitions _ =>
    have hname := Lifecycle.name_eq_of_spec spec
    have hnew : new ∈ t.lifecycles := lives ▸ mem_put_self hd mem hname
    obtain ⟨hendings, hadded, _⟩ := Lifecycle.changes_of_closed (hs.lifecycles life mem) opened
      (runs.trans (List.append_nil _).symm)
    -- A process with runs is not pending.
    have hstate : new.state ≠ .pending := by
      intro hpending
      have hnil := (ht.lifecycles new hnew).pending_iff.mp hpending
      have hids := (hs.lifecycles life mem).closedRuns_ids report opened
      rw [← runs, hnil] at hids
      exact Lifecycle.runs_ne_nil_of_openAttempt? opened (List.map_eq_nil_iff.mp hids.symm)
    refine .of_move hd mem (.finish index report now call opened spec runs hstate) hname lives ?_ ?_
    · rw [hendings]
      exact Nat.le_refl 1
    · rw [hendings, Lifecycle.additions, hadded, transitions]
      rfl
  | retried life index report now call mem opened lives _ transitions _ =>
    have hlife := hs.lifecycles life mem
    obtain ⟨hendings, hadded, _⟩ := Lifecycle.changes_of_closed hlife opened
      (show ((life.tolerated report).opened now).runs = _ from rfl)
    refine .of_move hd mem (.retry index report now call opened) rfl lives ?_ ?_
    · rw [hendings]
      exact Nat.le_refl 1
    · rw [hendings, Lifecycle.additions, hadded, transitions, hlife.nextId_tolerated report opened]
      rfl
  | none lives _ transitions _ => exact .of_same lives transitions

open Schedule in
theorem Change.growth {op : Operation} {s t : Schedule} {step : Step} (change : Change op s step t)
    (h : s.Coherent) : Growth op s step t :=
  (change.effect h).growth h (change.coherent h)

open Schedule in
theorem Changes.growth {now : Instant} {s t : Schedule} {step : Step}
    (launches : Changes (.start now) s step t) (h : s.Sound) : Growth (.start now) s step t := by
  induction launches with
  | none s => exact .of_same rfl rfl
  | more change _ ih => exact (change.growth h.coherent).andThen (ih (change.sound h))

namespace Schedule

variable {s : Schedule} {task : TaskSpec} {options : SchedulerOptions}

theorem apply_growth (h : s.Sound) (op : Operation) :
    Growth op s (s.apply op).2 (s.apply op).1 := by
  obtain ⟨now, t, first, rest, hfirst, launches, hstep⟩ := apply_split h op
  rw [hstep]
  rcases hfirst with ⟨rfl, rfl⟩ | change
  · exact (Growth.of_same rfl rfl).andThen (launches.growth h)
  · exact (change.growth h.coherent).andThen (launches.growth (change.sound h))

theorem apply_grows (h : s.Sound) (op : Operation) :
    List.Forall₂ (Lifecycle.Grows op) s.lifecycles (s.apply op).1.lifecycles := by
  have hmoves := (List.forall₂_and_left (p := Lifecycle.Coherent) _ _).mpr
    ⟨h.coherent.lifecycles, (apply_growth h op).moves⟩
  exact hmoves.imp fun _ _ ⟨hlife, move⟩ => move.grows hlife

/-- Whatever is done to a schedule, its history stays as it is but for open runs that are
closed and new runs at the end, and the processes go forward. -/
theorem Reachable.history_extends (h : Reachable task options s) (ops : List Operation) :
    List.Forall₂ Lifecycle.Extends s.lifecycles (s.after ops).lifecycles := by
  have hsound := h.sound
  clear h
  induction ops generalizing s with
  | nil => exact List.forall₂_same.mpr fun life _ => .refl life
  | cons op rest ih =>
    have hfirst := (apply_grows hsound op).imp fun _ _ grows => grows.toExtends
    exact forall₂_trans hfirst (ih (apply_sound hsound op)) fun _ _ _ => Lifecycle.Extends.trans

/-- An operation, whatever it is and whatever was done before, keeps all runs of all
processes in their places: it closes at most one of them and appends the others. It
changes pending processes and the one whose attempt is completed only, and the state of
each goes at most one step forward. The transitions that it announces are the end of the
closed run, if any, and then the launches of the appended ones, each once. -/
theorem Reachable.history_grows (h : Reachable task options s) (op : Operation) :
    List.Forall₂ (Lifecycle.Grows op) s.lifecycles (s.apply op).1.lifecycles ∧
    (s.endings (s.apply op).1).length ≤ 1 ∧
    ∃ launches, (s.apply op).2.transitions = s.endings (s.apply op).1 ++ launches ∧
      launches.Perm (s.additions (s.apply op).1) := by
  have hgrowth := apply_growth h.sound op
  exact ⟨apply_grows h.sound op, hgrowth.single, hgrowth.announced⟩

/-- `top` succeeds: its run is closed, and `left` and `right` each get their first. -/
theorem Reachable.history_grows_diamond :
    let success : Report := ⟨.success, ⟨0⟩, ⟨1⟩⟩
    let op : Operation := .complete ⟨"top", 0⟩ success ⟨1⟩
    let s := (initial .diamond {}).after [.start ⟨0⟩]
    let t := (s.apply op).1
    Reachable .diamond {} s ∧
      s.endings t = [Transition.closing ⟨"top", 0⟩ success] ∧
      s.additions t = [Transition.launch ⟨"left", 0⟩ ⟨1⟩, Transition.launch ⟨"right", 0⟩ ⟨1⟩] ∧
      List.Forall₂ (Lifecycle.Grows op) s.lifecycles t.lifecycles ∧ (s.endings t).length ≤ 1 ∧
      ∃ launches, (s.apply op).2.transitions = s.endings t ++ launches ∧
        launches.Perm (s.additions t) := by
  intro success op
  have hs : Reachable .diamond {} ((initial .diamond {}).after [.start ⟨0⟩]) := ⟨_, rfl⟩
  obtain ⟨hgrows, hsingle, hannounced⟩ := hs.history_grows op
  exact ⟨hs, by decide, by decide, hgrows, hsingle, hannounced⟩

end Schedule

end Overseer
