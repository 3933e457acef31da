import Mathlib.Data.List.Forall2
import TrialProtocol.Proofs.Experiment.Validation
import TrialProtocol.Trial

/-!
# What a valid experiment promises

The bounds of every parameter are the right way round, and whole where the parameter is. So the lower
bounds are values that the parameters may take, and an experiment can be assigned them.
-/

namespace TrialProtocol

/-- The experiment as it is kept: without links. -/
def Experiment.kept (e : Experiment) : Experiment :=
  { e with links := {} }

/-! ## 1. Values between bounds -/

/-- A value equals itself, whatever its exponent. -/
theorem Decimal.compareValue_self (d : Decimal) : d.compareValue d = .eq := by
  have hm : d.compareMagnitude d = .eq := by
    simp [Decimal.compareMagnitude]
  unfold Decimal.compareValue
  simp [hm]

/-- The experiment has every parameter that is assigned. -/
def Experiment.HasParameters (e : Experiment) (assignments : List Assignment) : Prop :=
  ∀ a ∈ assignments, (e.parameter? a.parameterName).isSome

/-- An assignment to the parameter, of a value between its bounds, whole if it takes whole numbers. -/
structure Parameter.Takes (p : Parameter) (a : Assignment) : Prop where
  name : a.parameterName = p.name
  min_le : p.bounds.min.compareValue a.value ≠ .gt
  le_max : a.value.compareValue p.bounds.max ≠ .gt
  whole : p.type = .integer → a.value.isInteger = true

/-- Assignments to exactly the parameters of the experiment, in order. -/
def Experiment.Spans (e : Experiment) (assignments : List Assignment) : Prop :=
  List.Forall₂ Parameter.Takes e.parameters assignments

theorem exists_takes_of_mem {ps : List Parameter} {assignments : List Assignment}
    (h : List.Forall₂ Parameter.Takes ps assignments) {a : Assignment} (ha : a ∈ assignments) :
    ∃ p ∈ ps, p.Takes a := by
  induction h with
  | nil => cases ha
  | cons takes _ ih =>
    rcases List.mem_cons.mp ha with rfl | ha
    · exact ⟨_, List.mem_cons_self, takes⟩
    · obtain ⟨p, hp, takes⟩ := ih ha
      exact ⟨p, List.mem_cons_of_mem _ hp, takes⟩

/-- Assignments to exactly the parameters are assignments to some of them. -/
theorem Experiment.Spans.hasParameters {e : Experiment} {assignments : List Assignment}
    (h : e.Spans assignments) : e.HasParameters assignments := by
  intro a ha
  obtain ⟨p, hp, takes⟩ := exists_takes_of_mem h ha
  rw [parameter?, List.find?_isSome]
  exact ⟨p, hp, by simp [takes.name]⟩

/-- **The lower bounds of a valid experiment are assignments to all its parameters.** -/
theorem Experiment.spans_lowerBounds {e : Experiment} (h : e.validate = .ok ()) :
    e.Spans (e.parameters.map fun p => { parameterName := p.name, value := p.bounds.min }) := by
  rw [Spans, List.forall₂_map_right_iff, List.forall₂_same]
  intro p hp
  have valid := isValid_of_validate h
  exact ⟨rfl, by simp [Decimal.compareValue_self], valid.ordered p hp,
    fun ht => Decimal.isInteger_iff.mpr (valid.whole p hp ht).1⟩

/-! ## 2. One experiment -/

/-- A decimal of one digit. -/
def Decimal.ofDigit (d : Digit) : Decimal where
  negative := false
  first := d
  more := []
  fraction := []
  exponent := none
  no_leading_zero _ := rfl

/-- An experiment of two trials, one at a time, with one whole parameter between 1 and 4. -/
def Experiment.sample : Experiment where
  optimization := { experimentBudget := 2, parallelTrials := 1 }
  metrics := [{ name := "cost" }]
  parameters :=
    [{ name := "cpu", type := .integer, bounds := { min := .ofDigit 1, max := .ofDigit 4 } }]

example : Experiment.sample.validate = .ok () := rfl

end TrialProtocol
