import TrialProtocol.Experiment
import TrialProtocol.NameMap
import TrialProtocol.Trial

/-!
# The store of experiments and trials

What a server keeps: under each name an experiment, the time of its last change, and its trials in the
order of their ids, which count from one.

* Every operation takes the store and gives the new one together with its result. A refused operation
  gives no store, so nothing can have changed.
* There is no optimizer: a dispensed trial assigns to each parameter its lower bound. Dispensing is
  limited by the experiment's budget, and by how many trials may run at a time.
* A trial takes one report.
-/

namespace TrialProtocol

/-! ## 1. What is kept -/

/-- A trial in the store. -/
structure StoredTrial where
  assignments : List Assignment
  values : List Observation := []
  status : TrialStatus := .active
  deriving DecidableEq, Repr

/-- An experiment in the store. -/
structure StoredExperiment where
  experiment : Experiment
  lastModified : Instant
  trials : List StoredTrial := []
  deriving DecidableEq, Repr

/-- All experiments under their names. -/
abbrev Store := NameMap StoredExperiment

/-- What the owner of a server chooses. -/
structure ServerConfig where
  /-- The token that every request has to bear, if there is one. -/
  token : Option String := none
  /-- How many seconds a worker is asked to wait while too many trials run. -/
  retryAfter : UInt64 := 5
  /-- The number of experiments on a page if a request does not ask for one. -/
  pageSize : UInt32 := 20
  deriving DecidableEq, Repr, Inhabited

/-- Why an operation is refused. -/
inductive StoreError where
  | invalid (why : InvalidExperiment)
  | differentParameters (name : String)
  | experimentNotFound (name : String)
  | noMoreTrials (name : String)
  | stillRunning (limit : UInt32) (name : String)
  | unknownParameter (parameter : String)
  | trialNotFound (name id : String)
  | unknownMetric (metric : String)
  deriving DecidableEq, Repr

/-- The wording of a refusal. -/
def StoreError.message : StoreError → String
  | .invalid why => why.message
  | .differentParameters name => "experiment " ++ name ++ " exists with different parameters"
  | .experimentNotFound name => "experiment not found: " ++ name
  | .noMoreTrials name => "experiment " ++ name ++ " has no more trials"
  | .stillRunning limit name =>
    Nat.repr limit.toNat ++ " trials of " ++ name ++ " are still running"
  | .unknownParameter parameter => "unknown parameter: " ++ parameter
  | .trialNotFound name id => "trial not found: " ++ name ++ "/" ++ id
  | .unknownMetric metric => "unknown metric: " ++ metric

namespace StoredExperiment

/-- The number of trials that wait for a report. -/
def activeTrials (e : StoredExperiment) : Nat :=
  e.trials.countP (·.status == .active)

/-- The lower bound of every parameter. -/
def lowerBounds (e : StoredExperiment) : List Assignment :=
  e.experiment.parameters.map fun p => { parameterName := p.name, value := p.bounds.min }

/-- The experiment with one trial more. -/
def addTrial (e : StoredExperiment) (assignments : List Assignment) : StoredExperiment :=
  { e with trials := e.trials ++ [{ assignments }] }

end StoredExperiment

namespace Store

/-! ## 2. Experiments -/

/-- The stored experiment, or that there is none. -/
def find (s : Store) (name : String) : Except StoreError StoredExperiment :=
  match s.get? name with
  | some e => .ok e
  | none => .error (.experimentNotFound name)

/-- The result of storing an experiment. -/
structure Stored where
  created : Bool
  experiment : Experiment
  lastModified : Instant
  deriving DecidableEq, Repr

/-- Creates an experiment, or replaces all but the parameters and the trials of the one that exists.
    Its links are not kept. -/
def put (s : Store) (now : Instant) (name : String) (experiment : Experiment) :
    Except StoreError (Stored × Store) :=
  match experiment.validate with
  | .error why => .error (.invalid why)
  | .ok () =>
    let experiment := { experiment with links := {} }
    match s.get? name with
    | some e =>
      if e.experiment.parameters = experiment.parameters then
        .ok (⟨false, experiment, now⟩, s.insert name { e with experiment, lastModified := now })
      else .error (.differentParameters name)
    | none =>
      .ok (⟨true, experiment, now⟩, s.insert name { experiment, lastModified := now })

/-- Removes an experiment and its trials. -/
def delete (s : Store) (name : String) : Except StoreError Store :=
  (s.find name).map fun _ => s.erase name

/-! ## 3. Pages -/

/-- A page of the listing, and how to ask for its neighbours. -/
structure Page where
  experiments : List ExperimentItem
  next : Option PageQuery
  prev : Option PageQuery
  deriving DecidableEq, Repr

/-- The path of all experiments. -/
def collectionPath : String := "/experiments"

/-- The path of an experiment. -/
def experimentPath (name : String) : String :=
  collectionPath ++ "/" ++ name

/-- How many experiments a page holds. -/
def pageLimit (pageSize : UInt32) (q : PageQuery) : UInt32 :=
  if q.limit = 0 then (if pageSize = 0 then 1 else pageSize) else q.limit

/-- The page that is asked for. Offsets end at the largest word. -/
def page (s : Store) (pageSize : UInt32) (q : PageQuery) : Page :=
  let limit := pageLimit pageSize q
  let stop := min (q.offset.toNat + limit.toNat) (UInt32.size - 1)
  { experiments := ((s.toList.drop q.offset.toNat).take limit.toNat).map fun (name, e) =>
      { experiment := e.experiment, itemRef := some (experimentPath name) }
    next := if stop < s.size then some { offset := UInt32.ofNat stop, limit } else none
    prev :=
      if q.offset = 0 then none
      else some { offset := UInt32.ofNat (q.offset.toNat - limit.toNat), limit } }

/-! ## 4. Trials -/

/-- Dispenses the next trial, unless the budget is spent or too many trials are running; gives its id
    and its assignments. -/
def dispense (s : Store) (name : String) :
    Except StoreError ((Nat × List Assignment) × Store) := do
  let e ← s.find name
  let budget := e.experiment.optimization.experimentBudget
  let parallel := e.experiment.optimization.parallelTrials
  if budget ≠ 0 ∧ budget.toNat ≤ e.trials.length then .error (.noMoreTrials name)
  else if parallel ≠ 0 ∧ parallel.toNat ≤ e.activeTrials then
    .error (.stillRunning parallel name)
  else
    return ((e.trials.length + 1, e.lowerBounds), s.insert name (e.addTrial e.lowerBounds))

/-- Stores a trial with assignments of one's own, to parameters that the experiment has; gives its
    id. -/
def createTrial (s : Store) (name : String) (assignments : List Assignment) :
    Except StoreError (Nat × Store) := do
  let e ← s.find name
  match assignments.find? fun a => (e.experiment.parameter? a.parameterName).isNone with
  | some a => .error (.unknownParameter a.parameterName)
  | none => return (e.trials.length + 1, s.insert name (e.addTrial assignments))

/-- A stored trial as it is listed. -/
def StoredTrial.item (t : StoredTrial) : TrialItem where
  assignments := t.assignments
  values := t.values
  failed := t.status == .failed
  status := t.status

/-- The trials of an experiment in the order of their ids. -/
def listTrials (s : Store) (name : String) : Except StoreError (List TrialItem) :=
  (s.find name).map fun e => e.trials.map StoredTrial.item

/-- The place of the trial with a written id. -/
def trialIndex? (id : String) : Option Nat :=
  match Text.readNat Text.maxWord64 id.toList with
  | .ok (n + 1) => some n
  | _ => none

/-- The place and the trial with a written id, if it waits for a report. -/
def activeTrial? (e : StoredExperiment) (id : String) : Option (Nat × StoredTrial) := do
  let i ← trialIndex? id
  let t ← e.trials[i]?
  if t.status = .active then some (i, t) else none

/-- Records the outcome of a trial. A failed one keeps no values; otherwise every value has to belong
    to a metric of the experiment. -/
def report (s : Store) (name id : String) (outcome : TrialValues) : Except StoreError Store :=
  let setTrial (e : StoredExperiment) (i : Nat) (t : StoredTrial) : Store :=
    s.insert name { e with trials := e.trials.set i t }
  match s.get? name with
  | none => .error (.trialNotFound name id)
  | some e =>
    match activeTrial? e id with
    | none => .error (.trialNotFound name id)
    | some (i, t) =>
      if outcome.failed then .ok (setTrial e i { t with status := .failed, values := [] })
      else
        match outcome.values.find? fun v => (e.experiment.metric? v.metricName).isNone with
        | some v => .error (.unknownMetric v.metricName)
        | none => .ok (setTrial e i { t with status := .completed, values := outcome.values })

end Store

end TrialProtocol
