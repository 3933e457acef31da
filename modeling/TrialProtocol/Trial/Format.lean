import TrialProtocol.Json.Generic
import TrialProtocol.Json.Record
import TrialProtocol.Json.Writer
import TrialProtocol.Trial

/-!
# Documents of trials

How trials, their assignments and their outcomes are written and read. An outcome without values, one
that did not fail and an unknown error are left out.
-/

namespace TrialProtocol

open Json

/-! ## 1. Assignments -/

namespace Assignment

/-- An assignment under construction. -/
structure Draft where
  parameterName : Option String := none
  value : Option Decimal := none

/-- The record of an assignment. -/
def record : Record Draft Assignment where
  name := "Assignment"
  fields :=
    [Member.of "parameterName" Draft.parameterName
        (fun s x => { s with parameterName := some x }) string,
      Member.of "value" Draft.value (fun s x => { s with value := some x }) decimal]
  empty := {}
  complete s := do
    return { parameterName := ← require "parameterName" s.parameterName,
             value := ← require "value" s.value }

/-- The written assignment. -/
def toJson (a : Assignment) : List Char :=
  Writer.object
    [Writer.member "parameterName" (Writer.string a.parameterName),
      Writer.member "value" a.value.text]

end Assignment

namespace TrialAssignments

/-- Assignments under construction. -/
structure Draft where
  assignments : Option (List Assignment) := none

/-- The record of a trial's assignments. -/
def record : Record Draft TrialAssignments where
  name := "TrialAssignments"
  fields :=
    [Member.of "assignments" Draft.assignments (fun s x => { s with assignments := some x })
      (list Assignment.record.decoder)]
  empty := {}
  complete s := .ok { assignments := s.assignments.getD [] }

/-- The written assignments. -/
def toJson (t : TrialAssignments) : List Char :=
  Writer.object [Writer.member "assignments" (Writer.list (t.assignments.map Assignment.toJson))]

end TrialAssignments

/-! ## 2. Outcomes -/

namespace Observation

/-- An observation under construction. -/
structure Draft where
  metricName : Option String := none
  value : Option Double := none
  error : Option (Option Double) := none

/-- The record of an observation. -/
def record : Record Draft Observation where
  name := "Value"
  fields :=
    [Member.of "metricName" Draft.metricName (fun s x => { s with metricName := some x }) string,
      Member.of "value" Draft.value (fun s x => { s with value := some x }) double,
      Member.of "error" Draft.error (fun s x => { s with error := some x }) (optional double)]
  empty := {}
  complete s := do
    return { metricName := ← require "metricName" s.metricName, value := ← require "value" s.value,
             error := s.error.getD none }

/-- The written observation. -/
def toJson (v : Observation) : List Char :=
  Writer.object <|
    [Writer.member "metricName" (Writer.string v.metricName),
      Writer.member "value" (Writer.double v.value)] ++
    (v.error.map fun x => Writer.member "error" (Writer.double x)).toList

end Observation

/-- The written members of an outcome. -/
def outcomeMembers (values : List Observation) (failed : Bool) : List (List Char) :=
  Writer.memberIf (!values.isEmpty) "values" (Writer.list (values.map Observation.toJson)) ++
    Writer.memberIf failed "failed" (Writer.boolean true)

namespace TrialValues

/-- An outcome under construction. -/
structure Draft where
  values : Option (List Observation) := none
  failed : Option Bool := none

/-- The record of an outcome. -/
def record : Record Draft TrialValues where
  name := "TrialValues"
  fields :=
    [Member.of "values" Draft.values (fun s x => { s with values := some x })
        (list Observation.record.decoder),
      Member.of "failed" Draft.failed (fun s x => { s with failed := some x }) boolean]
  empty := {}
  complete s := .ok { values := s.values.getD [], failed := s.failed.getD false }

/-- The written outcome. -/
def toJson (v : TrialValues) : List Char :=
  Writer.object (outcomeMembers v.values v.failed)

end TrialValues

/-! ## 3. Listings -/

namespace TrialStatus

/-- A status in a document. -/
def decoder : Decoder TrialStatus :=
  variant named

/-- The written status. -/
def toJson (s : TrialStatus) : List Char :=
  Writer.string s.name

end TrialStatus

namespace TrialItem

/-- A trial of a listing under construction. -/
structure Draft where
  assignments : Option (List Assignment) := none
  values : Option (List Observation) := none
  failed : Option Bool := none
  status : Option TrialStatus := none
  labels : Option (NameMap String) := none

/-- Labels in a document; of two with one name the later counts. -/
def labelsDecoder : Decoder (NameMap String) := fun depth doc =>
  (members string depth doc).map fun (entries, rest) => (NameMap.ofList entries, rest)

/-- The record of a trial in a listing. -/
def record : Record Draft TrialItem where
  name := "TrialItem"
  fields :=
    [Member.of "assignments" Draft.assignments (fun s x => { s with assignments := some x })
        (list Assignment.record.decoder),
      Member.of "values" Draft.values (fun s x => { s with values := some x })
        (list Observation.record.decoder),
      Member.of "failed" Draft.failed (fun s x => { s with failed := some x }) boolean,
      Member.of "status" Draft.status (fun s x => { s with status := some x })
        TrialStatus.decoder,
      Member.of "labels" Draft.labels (fun s x => { s with labels := some x })
        labelsDecoder]
  empty := {}
  complete s := .ok
    { assignments := s.assignments.getD []
      values := s.values.getD []
      failed := s.failed.getD false
      status := s.status.getD .staged
      labels := s.labels.getD .empty }

/-- The written trial. -/
def toJson (t : TrialItem) : List Char :=
  Writer.object <|
    [Writer.member "assignments" (Writer.list (t.assignments.map Assignment.toJson))] ++
    outcomeMembers t.values t.failed ++
    [Writer.member "status" t.status.toJson,
      Writer.member "labels"
        (Writer.object (t.labels.toList.map fun (k, v) => Writer.member k (Writer.string v)))]

end TrialItem

namespace TrialList

/-- A list of trials under construction. -/
structure Draft where
  trials : Option (List TrialItem) := none

/-- The record of a list of trials. -/
def record : Record Draft TrialList where
  name := "TrialList"
  fields :=
    [Member.of "trials" Draft.trials (fun s x => { s with trials := some x })
      (list TrialItem.record.decoder)]
  empty := {}
  complete s := .ok { trials := s.trials.getD [] }

/-- The written list. -/
def toJson (l : TrialList) : List Char :=
  Writer.object [Writer.member "trials" (Writer.list (l.trials.map TrialItem.toJson))]

end TrialList

end TrialProtocol
