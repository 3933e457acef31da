import TrialProtocol.Proofs.Experiment.Document
import TrialProtocol.Proofs.Json.Decoded
import TrialProtocol.Proofs.Text.Parts
import TrialProtocol.Proofs.Trial.Document

/-!
# Documents come back

What is written for a resource is read as the same resource. Conversely, a resource that was read from
some document, however that was laid out, is one of those that can be written: it has no links, and an
entry of a page has no empty reference. So its own document says the same as the first one, and is
written in the same way whenever it is read again.

* `Decimal.parse_display`: a decimal is what its own text is read as.
* `Json.RoundTrips`: what a type's documents have to do with its values. `RoundTrips.of_spells`: it
  follows from how values are written and from what can be read.
* `resourcesRoundTrip`: all types without doubles.
-/

namespace TrialProtocol

open Json (Decoder ReadsOnly Spells)

/-! ## 1. Decimals -/

namespace Decimal

/-- No blank stands in a written decimal. -/
theorem isBlank_of_mem_text (d : Decimal) : ∀ c ∈ d.text, Text.isBlank c = false := by
  rw [← text_literal]
  exact d.literal.isBlank_of_mem_text

/-- **A decimal is what its own text is read as**, so two of them are equal if their texts are. -/
theorem parse_display (d : Decimal) : parse d.display = .ok d := by
  have htrim : Text.trim d.text = d.text :=
    (Text.isTrimmedBy_of_forall d.isBlank_of_mem_text).trimBy_eq
  have hscan := d.scan_text (avoids_nil continues)
  rw [List.append_nil] at hscan
  rw [parse, display, String.toList_ofList, htrim, scanAll?, hscan]

end Decimal

/-! ## 2. Round trips -/

namespace Json

variable {α : Type}

/-- The value that bytes are read as. -/
def decode (read : Decoder α) (bytes : List UInt8) : Except Fault α :=
  readAll read (Utf8.units bytes)

/-- The bytes that a value is written as. -/
def serialize (write : α → List Char) (x : α) : List UInt8 :=
  Utf8.encode (write x)

/-- **Documents come back**, apart from values that are not plain, which no document holds. -/
structure RoundTrips (read : Decoder α) (write : α → List Char) (IsPlain : α → Prop) : Prop where
  /-- A plain value is read back from its document. -/
  back : ∀ x, IsPlain x → decode read (serialize write x) = .ok x
  /-- What is read is plain, whatever it is read from. -/
  plain : ∀ bytes x, decode read bytes = .ok x → IsPlain x
  /-- So its own document says the same, … -/
  again : ∀ bytes x, decode read bytes = .ok x → decode read (serialize write x) = .ok x
  /-- … and that is written as it is when it is read once more. -/
  settled : ∀ bytes x, decode read bytes = .ok x →
    (decode read (serialize write x)).map (serialize write) = .ok (serialize write x)

section

variable {read : Decoder α} {write : α → List Char} {levels : Nat}

/-- A value comes back if its text is read as the value. -/
theorem decode_serialize {x : α} (le : levels ≤ maxDepth) (spells : Spells read levels (write x) x) :
    decode read (serialize write x) = .ok x := by
  rw [decode, serialize, Utf8.units_encode]
  exact spells.readAll le

/-- **Values that are read from their texts, and of which no others are read, come back.** -/
theorem RoundTrips.of_spells {IsPlain : α → Prop} (le : levels ≤ maxDepth)
    (spells : ∀ x, IsPlain x → Spells read levels (write x) x) (only : ReadsOnly read IsPlain) :
    RoundTrips read write IsPlain := by
  have back : ∀ x, IsPlain x → decode read (serialize write x) = .ok x :=
    fun x plain => decode_serialize le (spells x plain)
  have again : ∀ bytes x, decode read bytes = .ok x → decode read (serialize write x) = .ok x :=
    fun _ x read => back x (only.readAll read)
  exact
    { back
      plain := fun _ _ read => only.readAll read
      again
      settled := fun bytes x read => by rw [again bytes x read]; rfl }

/-- Where all values are read from their texts, all are plain. -/
theorem RoundTrips.of_spells_all (le : levels ≤ maxDepth)
    (spells : ∀ x, Spells read levels (write x) x) :
    RoundTrips read write fun _ => True :=
  .of_spells le (fun x _ => spells x) fun _ _ _ _ _ => trivial

end

end Json

/-! ## 3. Experiments and pages -/

/-- An experiment without links. -/
def Experiment.IsPlain (e : Experiment) : Prop :=
  e.links = {}

theorem Experiment.IsPlain.kept_eq {e : Experiment} (plain : e.IsPlain) : e.kept = e := by
  obtain ⟨links, displayName, optimization, metrics, parameters⟩ := e
  cases plain
  rfl

theorem Experiment.readsOnly : ReadsOnly record.decoder IsPlain := by
  refine Json.Record.readsOnly_of_complete fun s e made => ?_
  cases made
  rfl

theorem Experiment.roundTrips : Json.RoundTrips record.decoder toJson IsPlain := by
  refine .of_spells (show 4 ≤ Json.maxDepth by decide) (fun e plain => ?_) readsOnly
  have spells := e.spells
  rwa [plain.kept_eq] at spells

/-- An entry of a page without links and without an empty reference. -/
structure ExperimentItem.IsPlain (i : ExperimentItem) : Prop where
  experiment : i.experiment.IsPlain
  itemRef : i.itemRef ≠ some ""

theorem ExperimentItem.readsOnly : ReadsOnly record.decoder IsPlain := by
  refine Json.Record.readsOnly_of_complete fun s i made => ?_
  cases made
  refine ⟨rfl, fun empty => ?_⟩
  obtain ⟨-, nonempty⟩ := Option.filter_eq_some_iff.mp empty
  cases nonempty

theorem ExperimentItem.roundTrips : Json.RoundTrips record.decoder toJson IsPlain := by
  refine .of_spells (show 4 ≤ Json.maxDepth by decide) (fun i plain => ?_) readsOnly
  have spells := ExperimentItem.spells plain.itemRef
  rwa [plain.experiment.kept_eq] at spells

/-- A page of such entries, without links. -/
structure ExperimentList.IsPlain (l : ExperimentList) : Prop where
  links : l.links = {}
  experiments : ∀ i ∈ l.experiments, i.IsPlain

theorem ExperimentList.readsOnly : ReadsOnly record.decoder IsPlain := by
  refine Json.Record.readsOnly (fun s => ∀ items ∈ s.experiments, ∀ i ∈ items, i.IsPlain) ?_ ?_ ?_
  · intro field mem
    cases List.mem_singleton.mp mem
    refine Json.Member.keeps_of ExperimentItem.readsOnly.list fun s items _ plain => ?_
    rintro _ ⟨⟩
    exact plain
  · exact fun items hi => by cases hi
  · rintro ⟨items?⟩ l before made
    cases made
    cases items? with
    | none => exact ⟨rfl, fun i hi => by cases hi⟩
    | some items => exact ⟨rfl, before items rfl⟩

theorem ExperimentList.roundTrips : Json.RoundTrips record.decoder toJson IsPlain := by
  refine .of_spells (show 6 ≤ Json.maxDepth by decide) (fun l plain => ?_) readsOnly
  obtain ⟨links, experiments⟩ := l
  obtain ⟨rfl, entries⟩ := plain
  exact ExperimentList.spells (fun i hi => (entries i hi).experiment.kept_eq)
    fun i hi => (entries i hi).itemRef

/-! ## 4. Assignments -/

/-- Assignments without a link. -/
def TrialAssignments.IsPlain (t : TrialAssignments) : Prop :=
  t.links = {}

theorem TrialAssignments.readsOnly : ReadsOnly record.decoder IsPlain := by
  refine Json.Record.readsOnly_of_complete fun s t made => ?_
  cases made
  rfl

theorem TrialAssignments.roundTrips : Json.RoundTrips record.decoder toJson IsPlain := by
  refine .of_spells (show 3 ≤ Json.maxDepth by decide) (fun t plain => ?_) readsOnly
  obtain ⟨links, assignments⟩ := t
  cases plain
  exact TrialAssignments.spells _

/-! ## 5. All resources -/

/-- **The documents of all types without doubles come back.** Nothing is asked of decimals, since each
    is what a text is read as. -/
structure ResourcesRoundTrip : Prop where
  constructed : ∀ d : Decimal, Decimal.parse d.display = .ok d
  decimal : Json.RoundTrips Json.decimal Decimal.text fun _ => True
  optimization : Json.RoundTrips Optimization.record.decoder Optimization.toJson fun _ => True
  metric : Json.RoundTrips Metric.record.decoder Metric.toJson fun _ => True
  bounds : Json.RoundTrips Bounds.record.decoder Bounds.toJson fun _ => True
  parameter : Json.RoundTrips Parameter.record.decoder Parameter.toJson fun _ => True
  experiment : Json.RoundTrips Experiment.record.decoder Experiment.toJson Experiment.IsPlain
  item : Json.RoundTrips ExperimentItem.record.decoder ExperimentItem.toJson ExperimentItem.IsPlain
  page : Json.RoundTrips ExperimentList.record.decoder ExperimentList.toJson ExperimentList.IsPlain
  query : Json.RoundTrips PageQuery.record.decoder PageQuery.toJson fun _ => True
  assignment : Json.RoundTrips Assignment.record.decoder Assignment.toJson fun _ => True
  assignments : Json.RoundTrips TrialAssignments.record.decoder TrialAssignments.toJson
    TrialAssignments.IsPlain

theorem resourcesRoundTrip : ResourcesRoundTrip where
  constructed := Decimal.parse_display
  decimal := .of_spells_all (by decide) Json.spells_decimal
  optimization := .of_spells_all (by decide) Optimization.spells
  metric := .of_spells_all (by decide) Metric.spells
  bounds := .of_spells_all (by decide) Bounds.spells
  parameter := .of_spells_all (by decide) Parameter.spells
  experiment := Experiment.roundTrips
  item := ExperimentItem.roundTrips
  page := ExperimentList.roundTrips
  query := .of_spells_all (by decide) PageQuery.spells
  assignment := .of_spells_all (by decide) Assignment.spells
  assignments := TrialAssignments.roundTrips

/-- Bounds that come as a list, with a number in quotes, leave as an object of numbers. -/
example : ((Json.decode Bounds.record.decoder (Utf8.encode "[\" -0.50E3 \", 1]".toList)).map
    fun b => String.ofList b.toJson).toOption = some "\x7b\"min\":-0.50e+3,\"max\":1\x7d" := by
  decide +kernel

end TrialProtocol
