import TrialProtocol.Experiment
import TrialProtocol.Json.Generic
import TrialProtocol.Json.Record

/-!
# Documents of experiments

How experiments and their parts are written and read. Members that hold their default are left out
where the format allows it: a zero, a metric that is not minimized, an empty display name, an empty
page. An entry of a listing is written like its experiment, with one member more at the end.
-/

namespace TrialProtocol

open Json

/-! ## 1. Optimization -/

namespace Optimization

/-- An optimization under construction. -/
structure Draft where
  experimentBudget : Option UInt32 := none
  parallelTrials : Option UInt32 := none
  burnIn : Option UInt32 := none

/-- The record of an optimization. -/
def record : Record Draft Optimization where
  name := "Optimization"
  fields :=
    [Member.of "experimentBudget" Draft.experimentBudget
        (fun s x => { s with experimentBudget := some x }) word32,
      Member.of "parallelTrials" Draft.parallelTrials
        (fun s x => { s with parallelTrials := some x }) word32,
      Member.of "burnIn" Draft.burnIn (fun s x => { s with burnIn := some x }) word32]
  empty := {}
  complete s := .ok
    { experimentBudget := s.experimentBudget.getD 0
      parallelTrials := s.parallelTrials.getD 0
      burnIn := s.burnIn.getD 0 }

/-- A member for a number, left out if it is zero. -/
def member (name : String) (n : UInt32) : List (List Char) :=
  Writer.memberIf (n != 0) name (Writer.natural n.toNat)

/-- The written optimization. -/
def toJson (o : Optimization) : List Char :=
  Writer.object <| member "experimentBudget" o.experimentBudget ++
    member "parallelTrials" o.parallelTrials ++ member "burnIn" o.burnIn

end Optimization

/-! ## 2. Metrics and parameters -/

namespace Metric

/-- A metric under construction. -/
structure Draft where
  name : Option String := none
  minimize : Option Bool := none

/-- The record of a metric. -/
def record : Record Draft Metric where
  name := "Metric"
  fields :=
    [Member.of "name" Draft.name (fun s x => { s with name := some x }) string,
      Member.of "minimize" Draft.minimize (fun s x => { s with minimize := some x }) boolean]
  empty := {}
  complete s := do return { name := ← require "name" s.name, minimize := s.minimize.getD false }

/-- The written metric. -/
def toJson (m : Metric) : List Char :=
  Writer.object <| Writer.member "name" (Writer.string m.name) ::
    Writer.memberIf m.minimize "minimize" (Writer.boolean true)

end Metric

namespace Bounds

/-- Bounds under construction. -/
structure Draft where
  min : Option Decimal := none
  max : Option Decimal := none

/-- The record of bounds. -/
def record : Record Draft Bounds where
  name := "Bounds"
  fields :=
    [Member.of "min" Draft.min (fun s x => { s with min := some x }) decimal,
      Member.of "max" Draft.max (fun s x => { s with max := some x }) decimal]
  empty := {}
  complete s := do return { min := ← require "min" s.min, max := ← require "max" s.max }

/-- The written bounds. -/
def toJson (b : Bounds) : List Char :=
  Writer.object [Writer.member "min" b.min.text, Writer.member "max" b.max.text]

end Bounds

namespace ParameterType

/-- A type in a document. -/
def decoder : Decoder ParameterType :=
  variant named

/-- The written type. -/
def toJson (t : ParameterType) : List Char :=
  Writer.string t.name

end ParameterType

namespace Parameter

/-- A parameter under construction. -/
structure Draft where
  name : Option String := none
  type : Option ParameterType := none
  bounds : Option Bounds := none

/-- The record of a parameter. -/
def record : Record Draft Parameter where
  name := "Parameter"
  fields :=
    [Member.of "name" Draft.name (fun s x => { s with name := some x }) string,
      Member.of "type" Draft.type (fun s x => { s with type := some x }) ParameterType.decoder,
      Member.of "bounds" Draft.bounds (fun s x => { s with bounds := some x })
        Bounds.record.decoder]
  empty := {}
  complete s := do
    return { name := ← require "name" s.name, type := ← require "type" s.type,
             bounds := ← require "bounds" s.bounds }

/-- The written parameter. -/
def toJson (p : Parameter) : List Char :=
  Writer.object
    [Writer.member "name" (Writer.string p.name), Writer.member "type" p.type.toJson,
      Writer.member "bounds" p.bounds.toJson]

end Parameter

/-! ## 3. Experiments and listings -/

namespace Experiment

/-- An experiment, or an entry of a listing, under construction. -/
structure Draft where
  displayName : Option String := none
  optimization : Option Optimization := none
  metrics : Option (List Metric) := none
  parameters : Option (List Parameter) := none
  itemRef : Option (Option String) := none

/-- The members that experiments and entries share. -/
def fields : List (Member Draft) :=
  [Member.of "displayName" Draft.displayName (fun s x => { s with displayName := some x }) string,
    Member.of "optimization" Draft.optimization (fun s x => { s with optimization := some x })
      Optimization.record.decoder,
    Member.of "metrics" Draft.metrics (fun s x => { s with metrics := some x })
      (list Metric.record.decoder),
    Member.of "parameters" Draft.parameters (fun s x => { s with parameters := some x })
      (list Parameter.record.decoder)]

/-- The experiment of a draft. -/
def Draft.experiment (s : Draft) : Experiment where
  displayName := s.displayName.getD ""
  optimization := s.optimization.getD {}
  metrics := s.metrics.getD []
  parameters := s.parameters.getD []

/-- The record of an experiment. -/
def record : Record Draft Experiment where
  name := "Experiment"
  fields := fields
  empty := {}
  complete s := .ok s.experiment

/-- The written members of an experiment. -/
def members (e : Experiment) : List (List Char) :=
  Writer.memberIf (e.displayName != "") "displayName" (Writer.string e.displayName) ++
    [Writer.member "optimization" e.optimization.toJson,
      Writer.member "metrics" (Writer.list (e.metrics.map Metric.toJson)),
      Writer.member "parameters" (Writer.list (e.parameters.map Parameter.toJson))]

/-- The written experiment. -/
def toJson (e : Experiment) : List Char :=
  Writer.object e.members

end Experiment

namespace ExperimentItem

/-- The record of an entry. An empty reference counts as none. The program that is modelled has a list
    of members for entries and another for experiments; the two coincide, so `Experiment.fields` is
    both of them here. -/
def record : Record Experiment.Draft ExperimentItem where
  name := "ExperimentItemRepr"
  fields := Experiment.fields ++
    [Member.of "itemRef" Experiment.Draft.itemRef (fun s x => { s with itemRef := some x })
      (optional string)]
  empty := {}
  complete s := .ok
    { experiment := s.experiment, itemRef := (s.itemRef.getD none).filter (· != "") }

/-- The written entry. The two lists of members that are written coincide as well, and that an entry is
    written as its experiment is rests on this. -/
def toJson (i : ExperimentItem) : List Char :=
  Writer.object <| i.experiment.members ++
    (i.itemRef.map fun r => Writer.member "itemRef" (Writer.string r)).toList

end ExperimentItem

namespace ExperimentList

/-- A page under construction. -/
structure Draft where
  experiments : Option (List ExperimentItem) := none

/-- The record of a page. -/
def record : Record Draft ExperimentList where
  name := "ExperimentList"
  fields :=
    [Member.of "experiments" Draft.experiments (fun s x => { s with experiments := some x })
      (list ExperimentItem.record.decoder)]
  empty := {}
  complete s := .ok { experiments := s.experiments.getD [] }

/-- The written page. -/
def toJson (l : ExperimentList) : List Char :=
  Writer.object <| Writer.memberIf (!l.experiments.isEmpty) "experiments"
    (Writer.list (l.experiments.map ExperimentItem.toJson))

end ExperimentList

namespace PageQuery

/-- A query under construction. -/
structure Draft where
  offset : Option UInt32 := none
  limit : Option UInt32 := none

/-- The record of a query. -/
def record : Record Draft PageQuery where
  name := "ExperimentListQuery"
  fields :=
    [Member.of "offset" Draft.offset (fun s x => { s with offset := some x }) word32,
      Member.of "limit" Draft.limit (fun s x => { s with limit := some x }) word32]
  empty := {}
  complete s := .ok { offset := s.offset.getD 0, limit := s.limit.getD 0 }

/-- The written query. -/
def toJson (q : PageQuery) : List Char :=
  Writer.object
    [Writer.member "offset" (Writer.natural q.offset.toNat),
      Writer.member "limit" (Writer.natural q.limit.toNat)]

end PageQuery

end TrialProtocol
