import TrialProtocol.Experiment.Format
import TrialProtocol.Proofs.Experiment.Valid
import TrialProtocol.Proofs.Json.Record

/-!
# Documents of experiments are read back

What is written for an experiment, or for a page of them, is read as the same again. Links never stand
in a document, so an experiment comes back as it is kept (`Experiment.kept`). A member that is left out
comes back as its default.
-/

namespace TrialProtocol

open Json (Spells)
open Json.Record (Fills)

/-! ## 1. The parts of an experiment -/

/-- A number as it stands in a draft: zero is left out. -/
def nonzero? (n : UInt32) : Option UInt32 :=
  if n != 0 then some n else none

theorem getD_nonzero? (n : UInt32) : (nonzero? n).getD 0 = n := by
  unfold nonzero?
  by_cases h : n = 0
  · rw [h]
    rfl
  · have hn : (n != 0) = true := by simpa using h
    rw [if_pos hn]
    rfl

theorem Optimization.spells (o : Optimization) : Spells record.decoder 1 o.toJson o := by
  obtain ⟨budget, parallel, burnIn⟩ := o
  have first : Fills record 0 {} (member "experimentBudget" budget)
      { experimentBudget := nonzero? budget } := by
    refine .oneIf _ rfl rfl (Json.spells_word32 budget) ?_
    unfold nonzero?
    split <;> rfl
  have second : Fills record 0 { experimentBudget := nonzero? budget }
      (member "parallelTrials" parallel)
      { experimentBudget := nonzero? budget, parallelTrials := nonzero? parallel } := by
    refine .oneIf _ rfl rfl (Json.spells_word32 parallel) ?_
    unfold nonzero?
    split <;> rfl
  have third : Fills record 0
      { experimentBudget := nonzero? budget, parallelTrials := nonzero? parallel }
      (member "burnIn" burnIn)
      { experimentBudget := nonzero? budget, parallelTrials := nonzero? parallel
        burnIn := nonzero? burnIn } := by
    refine .oneIf _ rfl rfl (Json.spells_word32 burnIn) ?_
    unfold nonzero?
    split <;> rfl
  refine ((first.append second).append third).spells ?_
  unfold record
  simp only [getD_nonzero?]

theorem Metric.spells (m : Metric) : Spells record.decoder 1 m.toJson m := by
  obtain ⟨name, minimize⟩ := m
  have first : Fills record 0 {} [Json.Writer.member "name" (Json.Writer.string name)]
      { name := some name } := .one rfl rfl (Json.spells_string name) rfl
  have second : Fills record 0 { name := some name }
      (Json.Writer.memberIf minimize "minimize" (Json.Writer.boolean true))
      { name := some name, minimize := if minimize then some true else none } := by
    refine .oneIf _ rfl rfl Json.spells_true ?_
    cases minimize <;> rfl
  refine (first.append second).spells ?_
  cases minimize <;> rfl

theorem Bounds.spells (b : Bounds) : Spells record.decoder 1 b.toJson b := by
  have first : Fills record 0 {} [Json.Writer.member "min" b.min.text] { min := some b.min } :=
    .one rfl rfl (Json.spells_decimal b.min) rfl
  have second : Fills record 0 { min := some b.min } [Json.Writer.member "max" b.max.text]
      { min := some b.min, max := some b.max } := .one rfl rfl (Json.spells_decimal b.max) rfl
  exact (first.append second).spells rfl

theorem ParameterType.spells (t : ParameterType) : Spells decoder 0 t.toJson t := by
  refine Json.spells_variant ?_
  cases t <;> rfl

theorem Parameter.spells (p : Parameter) : Spells record.decoder 2 p.toJson p := by
  obtain ⟨name, type, bounds⟩ := p
  have first : Fills record 1 {} [Json.Writer.member "name" (Json.Writer.string name)]
      { name := some name } := .one rfl rfl ((Json.spells_string name).mono (by decide)) rfl
  have second : Fills record 1 { name := some name } [Json.Writer.member "type" type.toJson]
      { name := some name, type := some type } := .one rfl rfl (type.spells.mono (by decide)) rfl
  have third : Fills record 1 { name := some name, type := some type }
      [Json.Writer.member "bounds" bounds.toJson]
      { name := some name, type := some type, bounds := some bounds } :=
    .one rfl rfl bounds.spells rfl
  exact ((first.append second).append third).spells rfl

/-! ## 2. Experiments -/

namespace Experiment

/-- The members of an experiment, read back. -/
def draft (e : Experiment) : Draft where
  displayName := if e.displayName != "" then some e.displayName else none
  optimization := some e.optimization
  metrics := some e.metrics
  parameters := some e.parameters

theorem experiment_draft (e : Experiment) : e.draft.experiment = e.kept := by
  have hname : (if e.displayName != "" then some e.displayName else none).getD "" =
      e.displayName := by
    by_cases h : e.displayName = ""
    · rw [h]
      rfl
    · have hn : (e.displayName != "") = true := by simpa using h
      rw [if_pos hn]
      rfl
  unfold Draft.experiment draft kept
  simp only [hname, Option.getD_some]

/-- A record that knows the members of experiments reads them, whatever else it knows. -/
theorem fills_members (e : Experiment) {α : Type} {r : Json.Record Draft α}
    (known : ∀ name field, fields.find? (·.name == name) = some field →
      r.fields.find? (·.name == name) = some field) :
    Fills r 3 {} e.members e.draft := by
  have first : Fills r 3 {}
      (Json.Writer.memberIf (e.displayName != "") "displayName" (Json.Writer.string e.displayName))
      { displayName := e.draft.displayName } := by
    refine .oneIf _ (known _ _ rfl) rfl ((Json.spells_string e.displayName).mono (by decide)) ?_
    unfold draft
    split <;> rfl
  have second : Fills r 3 { displayName := e.draft.displayName }
      [Json.Writer.member "optimization" e.optimization.toJson]
      { displayName := e.draft.displayName, optimization := some e.optimization } :=
    .one (known _ _ rfl) rfl (e.optimization.spells.mono (by decide)) rfl
  have third : Fills r 3
      { displayName := e.draft.displayName, optimization := some e.optimization }
      [Json.Writer.member "metrics" (Json.Writer.list (e.metrics.map Metric.toJson))]
      { displayName := e.draft.displayName, optimization := some e.optimization
        metrics := some e.metrics } := by
    have spells := Json.spells_list fun m (_ : m ∈ e.metrics) => m.spells
    exact .one (known _ _ rfl) rfl (spells.mono (by decide)) rfl
  have fourth : Fills r 3
      { displayName := e.draft.displayName, optimization := some e.optimization
        metrics := some e.metrics }
      [Json.Writer.member "parameters" (Json.Writer.list (e.parameters.map Parameter.toJson))]
      e.draft := by
    have spells := Json.spells_list fun p (_ : p ∈ e.parameters) => p.spells
    exact .one (known _ _ rfl) rfl spells rfl
  exact first.append (second.append (third.append fourth))

/-- **A written experiment is read back as it is kept.** -/
theorem spells (e : Experiment) : Spells record.decoder 4 e.toJson e.kept := by
  refine (e.fills_members fun _ _ h => h).spells ?_
  change Except.ok e.draft.experiment = _
  rw [experiment_draft]

end Experiment

/-! ## 3. Pages -/

/-- An entry comes back unless its reference is empty. -/
theorem ExperimentItem.spells {i : ExperimentItem} (h : i.itemRef ≠ some "") :
    Spells record.decoder 4 i.toJson { i with experiment := i.experiment.kept } := by
  obtain ⟨experiment, itemRef⟩ := i
  have known : ∀ name field, Experiment.fields.find? (·.name == name) = some field →
      record.fields.find? (·.name == name) = some field := by
    intro name field hf
    rw [record, List.find?_append, hf]
    rfl
  have first := experiment.fills_members known
  have complete : ∀ ref, record.complete { experiment.draft with itemRef := ref } = .ok
      { experiment := experiment.kept, itemRef := (ref.getD none).filter (· != "") } := by
    intro ref
    rw [← experiment.experiment_draft]
    rfl
  cases itemRef with
  | none =>
    have hm : toJson { experiment, itemRef := none } = Json.Writer.object experiment.members := by
      simp [toJson]
    rw [hm]
    exact first.spells (complete none)
  | some ref =>
    have second : Fills record 3 experiment.draft
        [Json.Writer.member "itemRef" (Json.Writer.string ref)]
        { experiment.draft with itemRef := some (some ref) } :=
      .one rfl rfl ((Json.spells_optional_string ref).mono (by decide)) rfl
    refine (first.append second).spells ?_
    have hr : (ref != "") = true := by simpa using fun e => h (congrArg some e)
    rw [complete, Option.getD_some, Option.filter_some, if_pos hr]

/-- **A written page is read back.** -/
theorem ExperimentList.spells {items : List ExperimentItem}
    (kept : ∀ i ∈ items, i.experiment.kept = i.experiment)
    (named : ∀ i ∈ items, i.itemRef ≠ some "") :
    Spells record.decoder 6 (toJson { experiments := items }) { experiments := items } := by
  have spells : Spells (Json.list ExperimentItem.record.decoder) 5
      (Json.Writer.list (items.map ExperimentItem.toJson)) items := by
    refine Json.spells_list fun i hi => ?_
    have hs := ExperimentItem.spells (named i hi)
    rwa [kept i hi] at hs
  have first : Fills record 5 {} (Json.Writer.memberIf (!items.isEmpty) "experiments"
      (Json.Writer.list (items.map ExperimentItem.toJson)))
      { experiments := if items.isEmpty then none else some items } := by
    refine .oneIf _ rfl rfl spells ?_
    cases items <;> rfl
  refine first.spells ?_
  cases items <;> rfl

/-- A query names both of its numbers, also where they are zero. -/
theorem PageQuery.spells (q : PageQuery) : Spells record.decoder 1 q.toJson q := by
  obtain ⟨offset, limit⟩ := q
  have first : Fills record 0 {} [Json.Writer.member "offset" (Json.Writer.natural offset.toNat)]
      { offset := some offset } := .one rfl rfl (Json.spells_word32 offset) rfl
  have second : Fills record 0 { offset := some offset }
      [Json.Writer.member "limit" (Json.Writer.natural limit.toNat)]
      { offset := some offset, limit := some limit } :=
    .one rfl rfl (Json.spells_word32 limit) rfl
  exact (first.append second).spells rfl

end TrialProtocol
