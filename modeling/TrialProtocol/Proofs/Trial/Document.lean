import TrialProtocol.Proofs.Json.Record
import TrialProtocol.Trial.Format

/-!
# Documents of trials are read back

The assignments of a trial keep every digit. Observed values are doubles, each of which is read as what
its shortest decimal is read as; apart from them a listed trial comes back as it was, if it has no
labels.

* `TrialAssignments.spells`: assignments.
* `TrialValues.spells`: outcomes.
* `TrialList.spells`: listed trials.
-/

namespace TrialProtocol

open Json (Spells)
open Json.Record (Fills)

/-! ## 1. Assignments -/

theorem Assignment.spells (a : Assignment) : Spells record.decoder 1 a.toJson a := by
  obtain ⟨name, value⟩ := a
  have first : Fills record 0 {}
      [Json.Writer.member "parameterName" (Json.Writer.string name)]
      { parameterName := some name } := .one rfl rfl (Json.spells_string name) rfl
  have second : Fills record 0 { parameterName := some name }
      [Json.Writer.member "value" value.text]
      { parameterName := some name, value := some value } :=
    .one rfl rfl (Json.spells_decimal value) rfl
  exact (first.append second).spells rfl

theorem spells_assignments (assignments : List Assignment) :
    Spells (Json.list Assignment.record.decoder) 2
      (Json.Writer.list (assignments.map Assignment.toJson)) assignments :=
  Json.spells_list fun a _ => a.spells

/-- **Written assignments are read back without their link.** -/
theorem TrialAssignments.spells (t : TrialAssignments) :
    Spells record.decoder 3 t.toJson { assignments := t.assignments } := by
  obtain ⟨links, assignments⟩ := t
  have first : Fills record 2 {} [Json.Writer.member "assignments"
      (Json.Writer.list (assignments.map Assignment.toJson))]
      { assignments := some assignments } :=
    .one rfl rfl (spells_assignments assignments) rfl
  exact first.spells rfl

/-! ## 2. Outcomes -/

/-- **An observation is read as another one**, of the same metric, with what its value and its error
    are read as. -/
structure Observation.IsReadAs (v w : Observation) : Prop where
  metric : w.metricName = v.metricName
  value : v.value.IsReadAs w.value
  error : Option.Rel Double.IsReadAs v.error w.error

theorem Observation.spells {v w : Observation} (h : v.IsReadAs w) :
    Spells record.decoder 1 v.toJson w := by
  obtain ⟨name, value, error⟩ := v
  obtain ⟨name', value', error'⟩ := w
  obtain ⟨rfl, hvalue, herror⟩ := h
  have first : Fills record 0 {} [Json.Writer.member "metricName" (Json.Writer.string name')]
      { metricName := some name' } := .one rfl rfl (Json.spells_string name') rfl
  have second : Fills record 0 { metricName := some name' }
      [Json.Writer.member "value" (Json.Writer.double value)]
      { metricName := some name', value := some value' } :=
    .one rfl rfl (Json.spells_double hvalue) rfl
  cases herror with
  | none => exact (first.append second).spells rfl
  | @some x y herror =>
    have third : Fills record 0 { metricName := some name', value := some value' }
        [Json.Writer.member "error" (Json.Writer.double x)]
        { metricName := some name', value := some value', error := some (some y) } :=
      .one rfl rfl (Json.spells_optional_double herror) rfl
    exact ((first.append second).append third).spells rfl

/-- **Observations are read one by one.** -/
abbrev AreReadAs : List Observation → List Observation → Prop :=
  List.Forall₂ Observation.IsReadAs

theorem spells_observations {values values' : List Observation} (h : AreReadAs values values') :
    Spells (Json.list Observation.record.decoder) 2
      (Json.Writer.list (values.map Observation.toJson)) values' :=
  Json.spells_texts (List.forall₂_map_left_iff.mpr (h.imp fun _ _ => Observation.spells))

/-- Where there are no values, none are written and none are read. -/
theorem AreReadAs.getD {values values' : List Observation} (h : AreReadAs values values') :
    (if !values.isEmpty then some values' else none).getD [] = values' := by
  cases h <;> rfl

/-- **A written outcome is read back**, with what its values are read as. -/
theorem TrialValues.spells {values values' : List Observation} (h : AreReadAs values values')
    (failed : Bool) :
    Spells record.decoder 3 (toJson { values, failed }) { values := values', failed } := by
  have first : Fills record 2 {} (outcomeMembers values failed)
      { values := if !values.isEmpty then some values' else none
        failed := if failed then some true else none } := by
    refine .append (.oneIf _ rfl rfl (spells_observations h) rfl)
      (.oneIf _ rfl ?_ (Json.spells_true.mono (by decide)) ?_)
    · cases values <;> rfl
    · cases values <;> cases failed <;> rfl
  refine first.spells ?_
  show Except.ok _ = _
  simp only [h.getD]
  cases failed <;> rfl

/-! ## 3. Listed trials -/

theorem TrialStatus.spells (s : TrialStatus) : Spells decoder 0 s.toJson s := by
  refine Json.spells_variant ?_
  cases s <;> rfl

/-- No labels are read as none. -/
theorem TrialItem.spells_no_labels :
    Spells labelsDecoder 1 (Json.Writer.object []) .empty where
  begins := ⟨'\x7b', _, rfl, by decide, by decide⟩
  reads depth rest hd _ := by
    obtain ⟨depth, rfl⟩ : ∃ d, depth = d + 1 := ⟨depth - 1, by omega⟩
    rfl

/-- **A listed trial is read as another one**, which has the same assignments and the same status, and
    what its values are read as. It has no links and no labels. -/
structure TrialItem.IsReadAs (t u : TrialItem) : Prop where
  links : t.links = {}
  labels : t.labels = .empty
  values : AreReadAs t.values u.values
  rest : u = { t with values := u.values }

/-- A listed trial without links, observed values and labels. -/
structure TrialItem.IsPlain (t : TrialItem) : Prop where
  links : t.links = {}
  values : t.values = []
  labels : t.labels = .empty

/-- Such a trial is read as itself. -/
theorem TrialItem.IsPlain.isReadAs {t : TrialItem} (plain : t.IsPlain) : t.IsReadAs t where
  links := plain.links
  labels := plain.labels
  values := by
    rw [plain.values]
    exact .nil
  rest := rfl

theorem TrialItem.spells {t u : TrialItem} (h : t.IsReadAs u) :
    Spells record.decoder 3 t.toJson u := by
  obtain ⟨links, assignments, values, failed, status, labels⟩ := t
  obtain ⟨rfl, rfl, hvalues, hrest⟩ := h
  rw [hrest]
  generalize u.values = values' at hvalues
  have first : Fills record 2 {} [Json.Writer.member "assignments"
      (Json.Writer.list (assignments.map Assignment.toJson))]
      { assignments := some assignments } :=
    .one rfl rfl (spells_assignments assignments) rfl
  have second : Fills record 2 { assignments := some assignments } (outcomeMembers values failed)
      { assignments := some assignments, values := if !values.isEmpty then some values' else none
        failed := if failed then some true else none } := by
    refine .append (.oneIf _ rfl rfl (spells_observations hvalues) rfl)
      (.oneIf _ rfl ?_ (Json.spells_true.mono (by decide)) ?_)
    · cases values <;> rfl
    · cases values <;> cases failed <;> rfl
  have third : Fills record 2
      { assignments := some assignments, values := if !values.isEmpty then some values' else none
        failed := if failed then some true else none }
      [Json.Writer.member "status" status.toJson]
      { assignments := some assignments, values := if !values.isEmpty then some values' else none
        failed := if failed then some true else none, status := some status } :=
    .one rfl rfl (status.spells.mono (by decide)) rfl
  have fourth : Fills record 2
      { assignments := some assignments, values := if !values.isEmpty then some values' else none
        failed := if failed then some true else none, status := some status }
      [Json.Writer.member "labels" (Json.Writer.object [])]
      { assignments := some assignments, values := if !values.isEmpty then some values' else none
        failed := if failed then some true else none, status := some status
        labels := some .empty } :=
    .one rfl rfl (spells_no_labels.mono (by decide)) rfl
  refine ((first.append second).append (third.append fourth)).spells ?_
  show Except.ok _ = _
  simp only [hvalues.getD]
  cases failed <;> rfl

/-- **A written list of trials is read back**, with what their values are read as. -/
theorem TrialList.spells {trials trials' : List TrialItem}
    (h : List.Forall₂ TrialItem.IsReadAs trials trials') :
    Spells record.decoder 5 (toJson { trials }) { trials := trials' } := by
  have items := Json.spells_texts
    (List.forall₂_map_left_iff.mpr (h.imp fun _ _ => TrialItem.spells))
  have first : Fills record 4 {} [Json.Writer.member "trials"
      (Json.Writer.list (trials.map TrialItem.toJson))] { trials := some trials' } :=
    .one rfl rfl items rfl
  exact first.spells rfl

end TrialProtocol
