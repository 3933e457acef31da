import TrialProtocol.Decimal.Order
import TrialProtocol.Experiment.Name
import TrialProtocol.Metadata

/-!
# Experiments

An experiment is a search space (parameters with bounds), the outcomes that are observed (metrics) and
how trials are dispensed. `validate` says which experiments a server accepts, and why not the others.
-/

namespace TrialProtocol

/-- How trials are dispensed; zero leaves the choice to the server. -/
structure Optimization where
  /-- The number of trials that the experiment may have. -/
  experimentBudget : UInt32 := 0
  /-- The number of trials that may run at a time. -/
  parallelTrials : UInt32 := 0
  /-- The number of random trials at the beginning. -/
  burnIn : UInt32 := 0
  deriving DecidableEq, Repr, Inhabited

/-- An observed outcome, and whether a lower value is better. -/
structure Metric where
  name : String
  minimize : Bool := false
  deriving DecidableEq, Repr

/-- Whether a parameter takes whole numbers only. -/
inductive ParameterType where
  | integer
  | double
  deriving DecidableEq, Repr

/-- The least and the greatest value of a parameter. -/
structure Bounds where
  min : Decimal
  max : Decimal
  deriving DecidableEq, Repr

/-- A number that the experiment varies. -/
structure Parameter where
  name : String
  type : ParameterType
  bounds : Bounds
  deriving DecidableEq, Repr

/-- An experiment. Its links come from headers and are never part of a document. -/
structure Experiment where
  links : ExperimentLinks := {}
  displayName : String := ""
  optimization : Optimization := {}
  metrics : List Metric := []
  parameters : List Parameter := []
  deriving DecidableEq, Repr

/-- Why an experiment is refused. -/
inductive InvalidExperiment where
  | emptyMetricName
  | emptyParameterName
  | duplicateMetric (name : String)
  | duplicateParameter (name : String)
  | invertedBounds (name : String)
  | fractionalBounds (name : String)
  deriving DecidableEq, Repr

/-- The wording of a refusal. -/
def InvalidExperiment.message : InvalidExperiment → String
  | .emptyMetricName => "metric name must not be empty"
  | .emptyParameterName => "parameter name must not be empty"
  | .duplicateMetric name => "duplicate metric name: " ++ name
  | .duplicateParameter name => "duplicate parameter name: " ++ name
  | .invertedBounds name => "parameter " ++ name ++ " has a minimum greater than its maximum"
  | .fractionalBounds name => "integer parameter " ++ name ++ " has fractional bounds"

namespace ParameterType

/-- The name of a type in documents. -/
def name : ParameterType → String
  | .integer => "int"
  | .double => "double"

/-- All types under their names. -/
def named : List (String × ParameterType) :=
  [(integer.name, integer), (double.name, double)]

/-- The type with a name. -/
def parse? (s : String) : Option ParameterType :=
  named.lookup s

end ParameterType

namespace Experiment

/-- The metric with a name. -/
def metric? (e : Experiment) (name : String) : Option Metric :=
  e.metrics.find? (·.name == name)

/-- The parameter with a name. -/
def parameter? (e : Experiment) (name : String) : Option Parameter :=
  e.parameters.find? (·.name == name)

/-! ## 1. Validation -/

/-- What is wrong with a metric behind the ones with the names `seen`. -/
def checkMetric (seen : List String) (m : Metric) : Except InvalidExperiment Unit :=
  if m.name = "" then .error .emptyMetricName
  else if m.name ∈ seen then .error (.duplicateMetric m.name)
  else .ok ()

/-- What is wrong with a parameter behind the ones with the names `seen`. -/
def checkParameter (seen : List String) (p : Parameter) : Except InvalidExperiment Unit :=
  if p.name = "" then .error .emptyParameterName
  else if p.name ∈ seen then .error (.duplicateParameter p.name)
  else if p.type = .integer ∧ ¬(p.bounds.min.isInteger ∧ p.bounds.max.isInteger) then
    .error (.fractionalBounds p.name)
  else if p.bounds.min.compareValue p.bounds.max = .gt then .error (.invertedBounds p.name)
  else .ok ()

/-- Checks entries one after the other, each against the names before it. -/
def checkAll {α : Type} (name : α → String)
    (check : List String → α → Except InvalidExperiment Unit) :
    List String → List α → Except InvalidExperiment Unit
  | _, [] => .ok ()
  | seen, x :: xs => do
    check seen x
    checkAll name check (name x :: seen) xs

/-- Accepts an experiment or says what is wrong with it first: the metrics are looked at before the
    parameters, each list in order. -/
def validate (e : Experiment) : Except InvalidExperiment Unit := do
  checkAll Metric.name checkMetric [] e.metrics
  checkAll Parameter.name checkParameter [] e.parameters

end Experiment

/-! ## 2. Listings -/

/-- An entry of a listing: an experiment and where it is. -/
structure ExperimentItem where
  experiment : Experiment
  itemRef : Option String := none
  deriving DecidableEq, Repr

/-- A page of experiments. -/
structure ExperimentList where
  links : PageLinks := {}
  experiments : List ExperimentItem := []
  deriving DecidableEq, Repr

/-- Which part of a listing is asked for; zero leaves the choice to the server. -/
structure PageQuery where
  offset : UInt32 := 0
  limit : UInt32 := 0
  deriving DecidableEq, Repr, Inhabited

/-- One entry of a query, left out if the number is zero. -/
def PageQuery.pair (name : String) (n : UInt32) : List (List Char) :=
  if n = 0 then [] else [name.toList ++ '=' :: Nat.toDigits 10 n.toNat]

/-- The query as part of an address, empty if nothing is asked for. -/
def PageQuery.encode (q : PageQuery) : List Char :=
  Text.join ['&'] (PageQuery.pair "limit" q.limit ++ PageQuery.pair "offset" q.offset)

end TrialProtocol
