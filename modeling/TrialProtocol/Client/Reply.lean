import TrialProtocol.Client.Failure
import TrialProtocol.Experiment.Format
import TrialProtocol.Trial.Format

/-!
# What an operation makes of a response

Each operation of a client accepts a few statuses and reads a response that has one of them. With any
other status the operation has failed, and neither the body nor most of the header matters.

* Links and times come from the header, everything else from the body.
* A stored experiment may come back without a body; then it is the one that was submitted.
-/

namespace TrialProtocol

/-- What an operation makes of a response. -/
structure Reply (α : Type) where
  /-- The statuses of success. -/
  accepted : List Nat
  /-- The statuses of failure that the operation knows how to name. -/
  refused : ClientError.StatusTable
  /-- The result of a response with a status of success. -/
  read : Http.Response → Except ClientError α

namespace Reply

/-- The result of a response. -/
def receive {α : Type} (r : Reply α) (response : Http.Response) : Except ClientError α :=
  if response.status ∈ r.accepted then r.read response
  else .error (ClientError.ofResponse r.refused response)

/-- Reads a body that has to be a document. -/
def readBody {α : Type} (decoder : Json.Decoder α) (body : List UInt8) : Except ClientError α :=
  match Json.readAll decoder (Utf8.units body) with
  | .ok x => .ok x
  | .error fault => .error (.undecodable fault)

/-- Whether a body holds nothing but ASCII blanks. -/
def isBlankBody (body : List UInt8) : Bool :=
  body.all fun b => Text.isAsciiBlank (Char.ofNat b.toNat)

/-! ## 1. Experiments -/

/-- A page of experiments, with its neighbours. -/
def page : Reply ExperimentList where
  accepted := [200]
  refused := []
  read response := do
    let list ← readBody ExperimentList.record.decoder response.body
    return { list with links := PageLinks.extract response.fields }

/-- An experiment with its links. -/
def experiment : Reply Experiment where
  accepted := [200]
  refused := [(404, .experimentNotFound)]
  read response := do
    let experiment ← readBody Experiment.record.decoder response.body
    return { experiment with links := ExperimentLinks.extract response.fields }

/-- A stored experiment with its links. -/
def stored (submitted : Experiment) : Reply Experiment where
  accepted := [200, 201]
  refused :=
    [(400, .experimentNameInvalid), (409, .experimentNameConflict), (422, .experimentInvalid)]
  read response := do
    let experiment ←
      if isBlankBody response.body then pure submitted
      else readBody Experiment.record.decoder response.body
    return { experiment with links := ExperimentLinks.extract response.fields }

/-- A deleted experiment. -/
def deleted : Reply Unit where
  accepted := [204]
  refused := [(404, .experimentNotFound)]
  read _ := .ok ()

/-! ## 2. Trials -/

/-- The trials of an experiment. -/
def trials : Reply TrialList where
  accepted := [200]
  refused := []
  read response := readBody TrialList.record.decoder response.body

/-- The report link of a trial that a worker proposed. -/
def createdTrial : Reply String where
  accepted := [201]
  refused := [(422, .trialInvalid)]
  read response :=
    match (TrialLinks.extract response.fields).report with
    | some link => .ok link
    | none => .error (.missingField "Location")

/-- A dispensed trial with its report link. -/
def dispensed : Reply TrialAssignments where
  accepted := [200]
  refused := [(410, .experimentStopped), (503, .trialUnavailable)]
  read response := do
    let trial ← readBody TrialAssignments.record.decoder response.body
    return { trial with links := TrialLinks.extract response.fields }

/-- A reported trial. -/
def reported : Reply Unit where
  accepted := [201]
  refused := [(404, .trialNotFound), (422, .trialInvalid)]
  read _ := .ok ()

/-! ## 3. Failure is told by the status -/

/-- A failure that a status stands for has a kind. -/
theorem kind?_receive_of_not_accepted {α : Type} {r : Reply α} {response : Http.Response}
    (h : response.status ∉ r.accepted) :
    ∃ e, r.receive response = .error e ∧ e.kind?.isSome = true := by
  refine ⟨_, if_neg h, ?_⟩
  rw [ClientError.ofResponse, ClientError.kind?_ofKind]
  rfl

end Reply

end TrialProtocol
