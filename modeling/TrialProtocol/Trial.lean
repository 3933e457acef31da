import TrialProtocol.Decimal.Rounding
import TrialProtocol.Metadata
import TrialProtocol.NameMap

/-!
# Trials

A trial assigns a value to each parameter of an experiment. It is dispensed by the server or proposed by
a worker, and either way comes with a link under which its outcome is reported, once.
-/

namespace TrialProtocol

/-- The value of one parameter. -/
structure Assignment where
  parameterName : String
  value : Decimal
  deriving DecidableEq, Repr

/-- The assignments of a trial, and where to report it. -/
structure TrialAssignments where
  links : TrialLinks := {}
  assignments : List Assignment := []
  deriving DecidableEq, Repr

/-- An observed value of a metric, and its error if that is known. -/
structure Observation where
  metricName : String
  value : Double
  error : Option Double := none
  deriving DecidableEq, Repr

/-- The outcome of a trial. The values of a failed one mean nothing. -/
structure TrialValues where
  values : List Observation := []
  failed : Bool := false
  deriving DecidableEq, Repr

/-- How far a trial has come. -/
inductive TrialStatus where
  | staged
  | active
  | completed
  | failed
  deriving DecidableEq, Repr

namespace TrialStatus

/-- The name of a status. -/
def name : TrialStatus → String
  | .staged => "staged"
  | .active => "active"
  | .completed => "completed"
  | .failed => "failed"

/-- All statuses under their names. -/
def named : List (String × TrialStatus) :=
  [staged, active, completed, failed].map fun s => (s.name, s)

/-- The status with a name. -/
def parse? (s : String) : Option TrialStatus :=
  named.lookup s

end TrialStatus

/-- A trial in a listing. -/
structure TrialItem where
  links : TrialLinks := {}
  assignments : List Assignment := []
  values : List Observation := []
  failed : Bool := false
  status : TrialStatus := .staged
  labels : NameMap String := .empty
  deriving DecidableEq

/-- A list of trials. -/
structure TrialList where
  trials : List TrialItem := []
  deriving DecidableEq

namespace TrialItem

/-- The value assigned to a parameter. -/
def assignment? (t : TrialItem) (parameter : String) : Option Decimal :=
  (t.assignments.find? (·.parameterName == parameter)).map (·.value)

/-- The observed value of a metric. -/
def value? (t : TrialItem) (metric : String) : Option Double :=
  (t.values.find? (·.metricName == metric)).map (·.value)

/-- What stands behind the last slash of an address, slashes at its end apart. -/
def lastSegment (uri : List Char) : List Char :=
  ((Text.dropEndWhile (· == '/') uri).reverse.takeWhile (· != '/')).reverse

/-- A short name: the last segment of the report link. -/
def name? (t : TrialItem) : Option String :=
  match t.links.report.map fun uri => lastSegment uri.toList with
  | some (c :: cs) => some (String.ofList (c :: cs))
  | _ => none

end TrialItem

end TrialProtocol
