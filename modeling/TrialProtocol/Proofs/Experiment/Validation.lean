import Mathlib.Data.List.Nodup
import TrialProtocol.Experiment

/-!
# Validation is exact

An experiment breaks a rule at a *place*: in which of its two lists, at which entry, and which of four
rules. What it breaks where (`Experiment.Breaks`) says nothing about how it is found. Places have an
order, and `Experiment.validate` reports what is broken at the first one.

* `Finds`: the result of a check is the first thing that is broken, or that nothing is.
* `finds_checkMetric`, `finds_checkParameter`: one entry. `finds_checkAll`: a list of entries, by
  induction on those that are left; the names in front are what is carried along.
* `validate_isExact`: nothing is broken just if all names are there and distinct and all bounds are
  right, and otherwise the first of the broken rules is reported.
-/

namespace TrialProtocol

/-! ## 1. Whole numbers -/

/-- A number that is written without a fraction and without an exponent. -/
def Decimal.IsWhole (d : Decimal) : Prop :=
  '.' ∉ d.text ∧ 'e' ∉ d.text ∧ 'E' ∉ d.text

/-- Integers are told by the parts of a number, and also by its text. -/
theorem Decimal.isInteger_iff {d : Decimal} : d.isInteger = true ↔ d.IsWhole := by
  have digit : ∀ n : Digit, n.toChar ≠ '.' ∧ n.toChar ≠ 'e' ∧ n.toChar ≠ 'E' := by decide
  obtain ⟨negative, first, more, fraction, exponent, noLeadingZero⟩ := d
  constructor
  · intro integer
    obtain ⟨rfl, rfl⟩ : fraction = [] ∧ exponent = none := by
      simpa [isInteger] using integer
    have all : ∀ c ∈ (⟨negative, first, more, [], none, noLeadingZero⟩ : Decimal).text,
        c ≠ '.' ∧ c ≠ 'e' ∧ c ≠ 'E' := by
      intro c mem
      simp only [text, fractionText, Option.map_none, Option.getD_none, List.append_nil,
        List.mem_append] at mem
      rcases mem with mem | mem
      · cases negative with
        | true => rw [List.mem_singleton.mp mem]; decide
        | false => cases mem
      · obtain ⟨n, -, rfl⟩ := List.mem_map.mp mem
        exact digit n
    exact ⟨fun h => (all _ h).1 rfl, fun h => (all _ h).2.1 rfl, fun h => (all _ h).2.2 rfl⟩
  · rintro ⟨noPoint, noMark, -⟩
    cases fraction with
    | cons n ns =>
      refine absurd ?_ noPoint
      simp [text, fractionText]
    | nil =>
      cases exponent with
      | some e =>
        refine absurd ?_ noMark
        simp [text, Exponent.text]
      | none => rfl

/-! ## 2. What is broken where -/

/-- What is asked of an entry. -/
inductive Rule where
  | namePresent
  | nameDistinct
  | boundsWhole
  | boundsOrdered

/-- The order in which the rules count. -/
def Rule.number : Rule → Nat
  | .namePresent => 0
  | .nameDistinct => 1
  | .boundsWhole => 2
  | .boundsOrdered => 3

/-- One rule is looked at before another. -/
def Rule.Before (a b : Rule) : Prop :=
  a.number < b.number

/-- The lists of an experiment. -/
inductive Part where
  | metrics
  | parameters

/-- Metrics come before parameters. -/
def Part.number : Part → Nat
  | .metrics => 0
  | .parameters => 1

/-- A place where a rule may be broken. -/
structure Place where
  part : Part
  index : Nat
  rule : Rule

/-- One place is before another: in an earlier list, at an earlier entry or by an earlier rule. -/
def Place.Before (a b : Place) : Prop :=
  a.part.number < b.part.number ∨ a.part.number = b.part.number ∧
    (a.index < b.index ∨ a.index = b.index ∧ a.rule.Before b.rule)

/-- A metric breaks a rule behind earlier ones, for which there is a refusal. -/
inductive Metric.Breaks (earlier : List Metric) (m : Metric) : Rule → InvalidExperiment → Prop where
  | namePresent (empty : m.name = "") : Breaks earlier m .namePresent .emptyMetricName
  | nameDistinct {other : Metric} (before : other ∈ earlier) (same : other.name = m.name) :
      Breaks earlier m .nameDistinct (.duplicateMetric m.name)

/-- A parameter breaks a rule behind earlier ones. -/
inductive Parameter.Breaks (earlier : List Parameter) (p : Parameter) :
    Rule → InvalidExperiment → Prop where
  | namePresent (empty : p.name = "") : Breaks earlier p .namePresent .emptyParameterName
  | nameDistinct {other : Parameter} (before : other ∈ earlier) (same : other.name = p.name) :
      Breaks earlier p .nameDistinct (.duplicateParameter p.name)
  | boundsWhole (integer : p.type = .integer)
      (broken : ¬(p.bounds.min.IsWhole ∧ p.bounds.max.IsWhole)) :
      Breaks earlier p .boundsWhole (.fractionalBounds p.name)
  | boundsOrdered (inverted : p.bounds.min.compareValue p.bounds.max = .gt) :
      Breaks earlier p .boundsOrdered (.invertedBounds p.name)

/-- **An experiment breaks a rule at a place**, for which there is a refusal. -/
inductive Experiment.Breaks (e : Experiment) : Place → InvalidExperiment → Prop where
  | metric {i : Nat} {m : Metric} {rule : Rule} {why : InvalidExperiment}
      (entry : e.metrics[i]? = some m) (broken : m.Breaks (e.metrics.take i) rule why) :
      Breaks e ⟨.metrics, i, rule⟩ why
  | parameter {i : Nat} {p : Parameter} {rule : Rule} {why : InvalidExperiment}
      (entry : e.parameters[i]? = some p) (broken : p.Breaks (e.parameters.take i) rule why) :
      Breaks e ⟨.parameters, i, rule⟩ why

/-- All names are there and distinct, and all bounds are right. -/
structure Experiment.IsValid (e : Experiment) : Prop where
  metricNames : ∀ m ∈ e.metrics, m.name ≠ ""
  distinctMetrics : (e.metrics.map (·.name)).Nodup
  parameterNames : ∀ p ∈ e.parameters, p.name ≠ ""
  distinctParameters : (e.parameters.map (·.name)).Nodup
  whole : ∀ p ∈ e.parameters, p.type = .integer → p.bounds.min.IsWhole ∧ p.bounds.max.IsWhole
  ordered : ∀ p ∈ e.parameters, p.bounds.min.compareValue p.bounds.max ≠ .gt

/-! ## 3. Finding the first -/

namespace Experiment

/-- **The result of a check is what is broken first**, or that nothing is. -/
inductive Finds {α : Type} (before : α → α → Prop) (broken : α → InvalidExperiment → Prop) :
    Except InvalidExperiment Unit → Prop where
  | nothing (none : ∀ a why, ¬broken a why) : Finds before broken (.ok ())
  | first {a : α} {why : InvalidExperiment} (here : broken a why)
      (least : ∀ b why', broken b why' → ¬before b a) : Finds before broken (.error why)

/-- A check that follows another one, whose places are all before. -/
theorem Finds.andThen {α : Type} {before : α → α → Prop} {broken broken' : α → InvalidExperiment → Prop}
    {check check' : Except InvalidExperiment Unit} (one : Finds before broken check)
    (two : Finds before broken' check')
    (apart : ∀ a why b why', broken a why → broken' b why' → ¬before b a) :
    Finds before (fun a why => broken a why ∨ broken' a why) (check >>= fun _ => check') := by
  cases one with
  | first here least =>
    refine .first (.inl here) ?_
    rintro b why' (there | there)
    · exact least b why' there
    · exact apart _ _ b why' here there
  | nothing none =>
    cases two with
    | first here least =>
      refine .first (.inr here) ?_
      rintro b why' (there | there)
      · exact absurd there (none b why')
      · exact least b why' there
    | nothing none' =>
      refine .nothing ?_
      rintro a why (there | there)
      · exact none a why there
      · exact none' a why there

theorem Finds.congr {α : Type} {before : α → α → Prop} {broken broken' : α → InvalidExperiment → Prop}
    {check : Except InvalidExperiment Unit} (finds : Finds before broken check)
    (same : ∀ a why, broken' a why ↔ broken a why) : Finds before broken' check := by
  have eq : broken' = broken := funext fun a => funext fun why => propext (same a why)
  rwa [eq]

/-! ## 4. One entry -/

theorem finds_checkMetric {seen : List String} {earlier : List Metric}
    (names : ∀ n, n ∈ seen ↔ ∃ m ∈ earlier, m.name = n) (m : Metric) :
    Finds Rule.Before (m.Breaks earlier) (checkMetric seen m) := by
  unfold checkMetric
  split
  case isTrue empty => exact .first (.namePresent empty) fun b _ _ => Nat.not_lt_zero b.number
  case isFalse named =>
    split
    case isTrue mem =>
      obtain ⟨other, before, same⟩ := (names m.name).mp mem
      refine .first (.nameDistinct before same) ?_
      rintro b why' (empty | -)
      · exact absurd empty named
      · exact Nat.lt_irrefl _
    case isFalse new =>
      refine .nothing ?_
      rintro b why (empty | ⟨before, same⟩)
      · exact named empty
      · exact new ((names m.name).mpr ⟨_, before, same⟩)

theorem finds_checkParameter {seen : List String} {earlier : List Parameter}
    (names : ∀ n, n ∈ seen ↔ ∃ p ∈ earlier, p.name = n) (p : Parameter) :
    Finds Rule.Before (p.Breaks earlier) (checkParameter seen p) := by
  unfold checkParameter
  split
  case isTrue empty => exact .first (.namePresent empty) fun b _ _ => Nat.not_lt_zero b.number
  case isFalse named =>
    split
    case isTrue mem =>
      obtain ⟨other, before, same⟩ := (names p.name).mp mem
      refine .first (.nameDistinct before same) ?_
      rintro b why' (empty | - | - | -)
      · exact absurd empty named
      all_goals simp [Rule.Before, Rule.number]
    case isFalse new =>
      have distinct : ∀ other ∈ earlier, other.name ≠ p.name :=
        fun other before same => new ((names p.name).mpr ⟨other, before, same⟩)
      split
      case isTrue fractional =>
        rw [Decimal.isInteger_iff, Decimal.isInteger_iff] at fractional
        refine .first (.boundsWhole fractional.1 fractional.2) ?_
        rintro b why' (empty | ⟨before, same⟩ | - | -)
        · exact absurd empty named
        · exact absurd same (distinct _ before)
        all_goals simp [Rule.Before, Rule.number]
      case isFalse whole =>
        rw [Decimal.isInteger_iff, Decimal.isInteger_iff] at whole
        split
        case isTrue inverted =>
          refine .first (.boundsOrdered inverted) ?_
          rintro b why' (empty | ⟨before, same⟩ | ⟨integer, broken⟩ | -)
          · exact absurd empty named
          · exact absurd same (distinct _ before)
          · exact absurd ⟨integer, broken⟩ whole
          · exact Nat.lt_irrefl _
        case isFalse ordered =>
          refine .nothing ?_
          rintro b why (empty | ⟨before, same⟩ | ⟨integer, broken⟩ | inverted)
          · exact named empty
          · exact distinct _ before same
          · exact whole ⟨integer, broken⟩
          · exact ordered inverted

/-- What one entry breaks, it breaks at its place. -/
theorem Finds.atEntry {broken : Rule → InvalidExperiment → Prop}
    {check : Except InvalidExperiment Unit} (finds : Finds Rule.Before broken check) (part : Part)
    (i : Nat) : Finds Place.Before
      (fun a why => a.part = part ∧ a.index = i ∧ broken a.rule why) check := by
  cases finds with
  | nothing none => exact .nothing fun a why h => none a.rule why h.2.2
  | @first rule why here least =>
    refine .first (a := ⟨part, i, rule⟩) ⟨rfl, rfl, here⟩ ?_
    rintro ⟨part', i', rule'⟩ why' ⟨rfl, rfl, there⟩ before
    have late := least rule' why' there
    simp only [Place.Before, Rule.Before] at before late
    omega

/-! ## 5. Lists of entries -/

section Lists

variable {α : Type} {name : α → String} {check : List String → α → Except InvalidExperiment Unit}
  {breaks : List α → α → Rule → InvalidExperiment → Prop}

/-- Some of the entries that are left break a rule. -/
def BreaksIn (part : Part) (breaks : List α → α → Rule → InvalidExperiment → Prop)
    (earlier left : List α) (a : Place) (why : InvalidExperiment) : Prop :=
  a.part = part ∧ earlier.length ≤ a.index ∧ ∃ x, (earlier ++ left)[a.index]? = some x ∧
    breaks ((earlier ++ left).take a.index) x a.rule why

theorem breaksIn_cons {part : Part} {earlier left : List α} {x : α} {a : Place}
    {why : InvalidExperiment} : BreaksIn part breaks earlier (x :: left) a why ↔
      (a.part = part ∧ a.index = earlier.length ∧ breaks earlier x a.rule why) ∨
        BreaksIn part breaks (earlier ++ [x]) left a why := by
  have all : earlier ++ x :: left = earlier ++ [x] ++ left := by simp
  have here : (earlier ++ [x] ++ left)[earlier.length]? = some x := by simp
  have front : (earlier ++ [x] ++ left).take earlier.length = earlier := by simp
  unfold BreaksIn
  rw [all, List.length_append, List.length_singleton]
  constructor
  · rintro ⟨hp, le, y, entry, broken⟩
    rcases Nat.eq_or_lt_of_le le with eq | lt
    · rw [← eq, here] at entry
      rw [← eq, front] at broken
      cases entry
      exact .inl ⟨hp, eq.symm, broken⟩
    · exact .inr ⟨hp, lt, y, entry, broken⟩
  · rintro (⟨hp, eq, broken⟩ | ⟨hp, lt, y, entry, broken⟩)
    · refine ⟨hp, Nat.le_of_eq eq.symm, x, ?_, ?_⟩
      · rw [eq, here]
      · rwa [eq, front]
    · exact ⟨hp, Nat.le_of_succ_le lt, y, entry, broken⟩

/-- **A list is checked entry by entry**, as far as nothing is broken. -/
theorem finds_checkAll (part : Part)
    (one : ∀ {seen earlier}, (∀ n, n ∈ seen ↔ ∃ x ∈ earlier, name x = n) →
      ∀ x, Finds Rule.Before (breaks earlier x) (check seen x))
    {seen : List String} {earlier : List α} (names : ∀ n, n ∈ seen ↔ ∃ x ∈ earlier, name x = n)
    (left : List α) :
    Finds Place.Before (BreaksIn part breaks earlier left) (checkAll name check seen left) := by
  induction left generalizing seen earlier with
  | nil =>
    refine .nothing ?_
    rintro a why ⟨-, le, x, entry, -⟩
    rw [List.append_nil, List.getElem?_eq_none le] at entry
    cases entry
  | cons x left ih =>
    have more : ∀ n, n ∈ name x :: seen ↔ ∃ y ∈ earlier ++ [x], name y = n := by
      intro n
      rw [List.mem_cons, names]
      simp only [List.mem_append, List.mem_singleton, or_and_right, exists_or, exists_eq_left]
      rw [or_comm, eq_comm]
    refine Finds.congr (((one names x).atEntry part earlier.length).andThen (ih more) ?_)
      fun a why => breaksIn_cons
    rintro a why b why' ⟨hp, hi, -⟩ ⟨hp', lt, -⟩ before
    rw [List.length_append, List.length_singleton] at lt
    simp only [Place.Before, hp, hp', hi] at before
    omega

end Lists

/-! ## 6. The experiment -/

theorem finds_validate (e : Experiment) : Finds Place.Before e.Breaks e.validate := by
  have none : ∀ {α : Type} {name : α → String} n, n ∈ ([] : List String) ↔ ∃ x ∈ [], name x = n := by
    simp
  refine Finds.congr ((finds_checkAll .metrics finds_checkMetric none e.metrics).andThen
    (finds_checkAll .parameters finds_checkParameter none e.parameters) ?_) ?_
  · rintro a why b why' ⟨hp, -⟩ ⟨hp', -⟩ before
    simp only [Place.Before, hp, hp', Part.number] at before
    omega
  · rintro ⟨part, i, rule⟩ why
    constructor
    · rintro (⟨entry, broken⟩ | ⟨entry, broken⟩)
      · exact .inl ⟨rfl, Nat.zero_le i, _, entry, broken⟩
      · exact .inr ⟨rfl, Nat.zero_le i, _, entry, broken⟩
    · rintro (⟨rfl, -, x, entry, broken⟩ | ⟨rfl, -, x, entry, broken⟩)
      · exact .metric entry broken
      · exact .parameter entry broken

/-- Names are distinct just if none stands earlier in the list. -/
theorem nodup_iff {α : Type} {name : α → String} {xs : List α} :
    (xs.map name).Nodup ↔ ∀ i x, xs[i]? = some x → ∀ y ∈ xs.take i, name y ≠ name x := by
  rw [List.Nodup, List.pairwise_map, List.pairwise_iff_getElem]
  constructor
  · intro distinct i x entry y before
    obtain ⟨hi, rfl⟩ := List.getElem?_eq_some_iff.mp entry
    obtain ⟨j, hj, rfl⟩ := List.mem_take_iff_getElem.mp before
    exact distinct j i (by omega) hi (by omega)
  · intro distinct j i hj hi lt
    exact distinct i _ (List.getElem?_eq_getElem hi) _
      (List.mem_take_iff_getElem.mpr ⟨j, by omega, rfl⟩)

theorem isValid_iff {e : Experiment} : e.IsValid ↔ ∀ a why, ¬e.Breaks a why := by
  constructor
  · rintro valid a why (⟨entry, broken⟩ | ⟨entry, broken⟩)
    · have mem := List.mem_of_getElem? entry
      cases broken with
      | namePresent empty => exact valid.metricNames _ mem empty
      | nameDistinct before same => exact nodup_iff.mp valid.distinctMetrics _ _ entry _ before same
    · have mem := List.mem_of_getElem? entry
      cases broken with
      | namePresent empty => exact valid.parameterNames _ mem empty
      | nameDistinct before same =>
        exact nodup_iff.mp valid.distinctParameters _ _ entry _ before same
      | boundsWhole integer broken => exact broken (valid.whole _ mem integer)
      | boundsOrdered inverted => exact valid.ordered _ mem inverted
  · intro none
    have metric : ∀ m ∈ e.metrics, ∃ i, e.metrics[i]? = some m := fun m => List.mem_iff_getElem?.mp
    have parameter : ∀ p ∈ e.parameters, ∃ i, e.parameters[i]? = some p :=
      fun p => List.mem_iff_getElem?.mp
    constructor
    case metricNames =>
      intro m mem empty
      obtain ⟨i, entry⟩ := metric m mem
      exact none _ _ (.metric entry (.namePresent empty))
    case distinctMetrics =>
      exact nodup_iff.mpr fun i m entry other before same =>
        none _ _ (.metric entry (.nameDistinct before same))
    case parameterNames =>
      intro p mem empty
      obtain ⟨i, entry⟩ := parameter p mem
      exact none _ _ (.parameter entry (.namePresent empty))
    case distinctParameters =>
      exact nodup_iff.mpr fun i p entry other before same =>
        none _ _ (.parameter entry (.nameDistinct before same))
    case whole =>
      intro p mem integer
      obtain ⟨i, entry⟩ := parameter p mem
      exact Classical.not_not.mp fun broken =>
        none _ _ (.parameter entry (.boundsWhole integer broken))
    case ordered =>
      intro p mem inverted
      obtain ⟨i, entry⟩ := parameter p mem
      exact none _ _ (.parameter entry (.boundsOrdered inverted))

/-- An experiment that is accepted breaks no rule. -/
theorem isValid_of_validate {e : Experiment} (accepted : e.validate = .ok ()) : e.IsValid := by
  have finds := finds_validate e
  rw [accepted] at finds
  cases finds with
  | nothing none => exact isValid_iff.mpr none

/-- At one place there is one refusal. -/
theorem Breaks.unique {e : Experiment} {a : Place} {why why' : InvalidExperiment}
    (h : e.Breaks a why) (h' : e.Breaks a why') : why = why' := by
  rcases h with ⟨entry, broken⟩ | ⟨entry, broken⟩ <;>
  · rcases h' with ⟨entry', broken'⟩ | ⟨entry', broken'⟩
    rw [entry] at entry'
    cases entry'
    cases broken <;> cases broken' <;> rfl

/-- Of two places one is before the other. -/
theorem eq_of_not_before {a b : Place} (h : ¬a.Before b) (h' : ¬b.Before a) : a = b := by
  obtain ⟨part, i, rule⟩ := a
  obtain ⟨part', i', rule'⟩ := b
  simp only [Place.Before, Rule.Before] at h h'
  obtain rfl : part = part' := by
    cases part <;> cases part' <;> simp [Part.number] at h h' ⊢
  obtain rfl : i = i' := by omega
  obtain rfl : rule = rule' := by
    cases rule <;> cases rule' <;> simp [Rule.number] at h h' ⊢
  rfl

/-- **Validation is exact**: an experiment is accepted just if it breaks no rule, and otherwise the
    rule that is broken at the first place is reported. -/
theorem validate_isExact (e : Experiment) :
    (e.validate = .ok () ↔ e.IsValid) ∧ ∀ why, e.validate = .error why ↔
      ∃ a, e.Breaks a why ∧ ∀ b why', e.Breaks b why' → ¬b.Before a := by
  rw [isValid_iff]
  generalize found : e.validate = result
  have finds := finds_validate e
  rw [found] at finds
  cases finds with
  | nothing none =>
    refine ⟨iff_of_true rfl none, fun why => iff_of_false (fun h => by cases h) ?_⟩
    rintro ⟨a, here, -⟩
    exact none a why here
  | @first a why here least =>
    refine ⟨iff_of_false (fun h => by cases h) fun none => none a why here, fun why' => ?_⟩
    constructor
    · rintro ⟨⟩
      exact ⟨a, here, least⟩
    · rintro ⟨b, there, least'⟩
      cases eq_of_not_before (least b why' there) (least' a why here)
      rw [here.unique there]

end Experiment

end TrialProtocol
