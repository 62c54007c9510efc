import Overseer.TaskFile.Loading
import Overseer.Proofs.TaskFile.Validation

/-!
# What a task file takes from its document

A document writes its times in whole seconds and its constraints as orders. An accepted
document is taken as it is written, field by field: its times are exact, its processes stand
in their places, and its constraints are the pairs of neighbours in its orders. Nothing of it
is lost before the check, which therefore decides about the document itself.

Results:
1. `TaskFileDocument.draft_injective`: different documents give different descriptions.
2. `TaskFileDocument.describes_of_validate`: an accepted document describes the task file.
3. `TaskFile.ofText_eq_ok`: which texts are task files.
4. `TaskFile.describes_of_load`: a loaded task file is described by a well-formed document.
-/

namespace Overseer

theorem Span.ofSeconds_injective : Function.Injective Span.ofSeconds := by
  intro m n h
  have hnanos : m * nanosPerSecond = n * nanosPerSecond := congrArg Span.nanos h
  exact Nat.eq_of_mul_eq_mul_right (by decide) hnanos

/-! ## Sections -/

theorem ConfigSection.options_injective : Function.Injective ConfigSection.options := by
  rintro ⟨counting, minDuration, drainSeconds⟩ ⟨counting', minDuration', drainSeconds'⟩ h
  obtain ⟨hscheduling, hdrain⟩ := SupervisorOptions.mk.inj h
  obtain ⟨rfl, rfl⟩ := SchedulerOptions.mk.inj hscheduling
  obtain rfl := UInt64.toNat_inj.mp (Span.ofSeconds_injective hdrain)
  rfl

theorem ProcessSection.spec_injective : Function.Injective ProcessSection.spec := by
  rintro ⟨name, cmdline, maxFailures, minSeconds⟩ ⟨name', cmdline', maxFailures', minSeconds'⟩ h
  obtain ⟨rfl, rfl, rfl, hduration⟩ := ProcessSpec.mk.inj h
  obtain rfl := UInt64.toNat_inj.mp (Span.ofSeconds_injective hduration)
  rfl

/-- A process is what its section says. -/
structure ProcessSection.Describes (process : ProcessSection) (spec : ProcessSpec) : Prop where
  name : spec.name = process.name
  cmdline : spec.cmdline = process.cmdline
  maxFailures : spec.maxFailures = process.maxFailures
  minDuration : spec.minDuration.nanos = process.minSeconds.toNat * 1000000000

theorem ProcessSection.describes_spec (process : ProcessSection) :
    process.Describes process.spec :=
  ⟨rfl, rfl, rfl, rfl⟩

/-! ## Documents -/

namespace TaskFileDocument

variable {document : TaskFileDocument} {file : TaskFile}

/-- A task file is what its document says. -/
structure Describes (document : TaskFileDocument) (file : TaskFile) : Prop where
  counting : file.options.scheduling.counting = document.config.counting
  minDuration : file.options.scheduling.minDuration = document.config.minDuration
  drainTimeout : file.options.drainTimeout.nanos =
    document.config.drainSeconds.toNat * 1000000000
  name : file.task.name = document.task.name
  resources : file.task.resources = document.task.resources
  maxFailures : file.task.maxFailures = document.task.maxFailures
  maxConcurrency : file.task.maxConcurrency = document.task.maxConcurrency
  /-- The processes are those of the sections, in their order. -/
  processes : List.Forall₂ ProcessSection.Describes document.processes file.task.processes
  constraints : file.task.constraints =
    document.orders.flatMap fun order => order.zipWith Constraint.mk order.tail
  orders : ∀ order ∈ document.orders, order.Sublist file.task.precedence.order

theorem draft_injective : Function.Injective TaskFileDocument.draft := by
  rintro ⟨config, task, processes, orders⟩ ⟨config', task', processes', orders'⟩ h
  obtain ⟨hoptions, hname, hresources, hmaxFailures, hmaxConcurrency, hprocesses, rfl⟩ :=
    TaskFileDraft.mk.inj h
  obtain rfl := ConfigSection.options_injective hoptions
  obtain rfl := List.map_injective_iff.mpr ProcessSection.spec_injective hprocesses
  obtain rfl : task = task' := by
    cases task
    cases task'
    exact TaskSection.mk.injEq .. ▸ ⟨hname, hmaxFailures, hmaxConcurrency, hresources⟩
  rfl

/-- Without the section `config` a task is supervised by the default options. -/
theorem options_of_unset {dialect : Dialect} {value : Value} {fields : List (String × Value)}
    (h : ofValue? dialect value = some document)
    (hfields : value.fields? dialect ["config", "task", "process", "constraint"] = some fields)
    (hunset : fields.lookup "config" = none) : document.draft.options = {} := by
  simp only [ofValue?, Option.bind_eq_bind, Option.bind_eq_some_iff, Option.pure_def,
    Option.some.injEq] at h
  obtain ⟨known, hknown, config, hconfig, _, _, _, _, _, _, rfl⟩ := h
  obtain rfl := Option.some.inj (hknown.symm.trans hfields)
  rw [Value.defaulted, hunset] at hconfig
  obtain rfl := Option.some.inj hconfig
  rfl

/-- An accepted document describes the task file. -/
theorem describes_of_validate (h : document.draft.validate = .ok file) :
    document.Describes file := by
  have hkeeps := TaskFileDraft.keeps_of_validate h
  have hprocesses : file.task.processes = document.processes.map (·.spec) := hkeeps.processes
  refine ⟨?_, ?_, ?_, hkeeps.name, hkeeps.resources, hkeeps.maxFailures,
    hkeeps.maxConcurrency, ?_, hkeeps.constraints, hkeeps.orders⟩
  · rw [hkeeps.options]
    rfl
  · rw [hkeeps.options]
    rfl
  · rw [hkeeps.options]
    rfl
  · rw [hprocesses, List.forall₂_map_right_iff, List.forall₂_same]
    exact fun process _ => process.describes_spec

end TaskFileDocument

/-! ## Texts -/

namespace TaskFile

variable {text : String} {file : TaskFile}

/-- A text is a task file if it holds a document that is accepted. -/
theorem ofText_eq_ok : ofText text = .ok file ↔
    ∃ value document, Value.ofToml? text = some value ∧
      TaskFileDocument.ofValue? .toml value = some document ∧
      document.draft.validate = .ok file := by
  have hread : ∀ draft : TaskFileDraft,
      (Value.ofToml? text >>= TaskFileDraft.ofValue? .toml) = some draft ↔
        ∃ value document, Value.ofToml? text = some value ∧
          TaskFileDocument.ofValue? .toml value = some document ∧ document.draft = draft := by
    simp [TaskFileDraft.ofValue?, Option.bind_eq_some_iff]
  constructor
  · intro h
    unfold ofText at h
    split at h
    · cases h
    · next draft hdraft =>
      obtain ⟨value, document, hvalue, hdocument, rfl⟩ := (hread draft).mp hdraft
      refine ⟨value, document, hvalue, hdocument, ?_⟩
      split at h
      · next accepted haccepted => exact haccepted.trans (by rw [Except.ok.inj h])
      · cases h
  · rintro ⟨value, document, hvalue, hdocument, hvalid⟩
    have hdraft := (hread document.draft).mpr ⟨value, document, hvalue, hdocument, rfl⟩
    simp only [ofText, hdraft, hvalid]

/-- A loaded task file is described by the document in the text that was read, which is
well-formed. -/
theorem describes_of_load {tree : FileTree} {folder : Nat} {path : String}
    (h : load tree folder path = .ok file) :
    ∃ text value document, tree.readText folder path = .ok text ∧
      Value.ofToml? text = some value ∧
      TaskFileDocument.ofValue? .toml value = some document ∧
      document.draft.WellFormed ∧ document.Describes file := by
  unfold load at h
  split at h
  · next text htext =>
    obtain ⟨value, document, hvalue, hdocument, hvalid⟩ := ofText_eq_ok.mp h
    exact ⟨text, value, document, htext, hvalue, hdocument,
      TaskFileDraft.wellFormed_of_validate hvalid, TaskFileDocument.describes_of_validate hvalid⟩
  · cases h

end TaskFile

end Overseer
