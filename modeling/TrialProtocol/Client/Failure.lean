import TrialProtocol.Client.Config
import TrialProtocol.Http.Message
import TrialProtocol.Url

/-!
# How an operation fails

What can go wrong between asking and having an answer, and how the status of a response is read.

* Each operation lists the statuses that it knows how to name. Every other one goes through
  `ClientError.ofResponse`: a missing token is the same failure everywhere, and the rest is unexpected.
* `isRetryable` and `isTerminal` tell a worker whether to ask again or to stop.
-/

namespace TrialProtocol

/-- The kinds of failure that the protocol has names for. -/
inductive ErrorKind where
  | experimentNameInvalid
  | experimentNameConflict
  | experimentInvalid
  | experimentNotFound
  | experimentStopped
  | trialInvalid
  | trialUnavailable
  | trialNotFound
  | unauthorized
  | unexpectedResponse
  deriving DecidableEq, Repr

namespace ErrorKind

/-- The name of a kind. -/
def name : ErrorKind → String
  | .experimentNameInvalid => "experiment-name-invalid"
  | .experimentNameConflict => "experiment-name-conflict"
  | .experimentInvalid => "experiment-invalid"
  | .experimentNotFound => "experiment-not-found"
  | .experimentStopped => "experiment-stopped"
  | .trialInvalid => "trial-invalid"
  | .trialUnavailable => "trial-unavailable"
  | .trialNotFound => "trial-not-found"
  | .unauthorized => "unauthorized"
  | .unexpectedResponse => "unexpected-response"

/-- All kinds under their names. -/
def named : List (String × ErrorKind) :=
  [experimentNameInvalid, experimentNameConflict, experimentInvalid, experimentNotFound,
    experimentStopped, trialInvalid, trialUnavailable, trialNotFound, unauthorized,
    unexpectedResponse].map fun k => (k.name, k)

/-- The kind with a name. -/
def parse? (s : String) : Option ErrorKind :=
  named.lookup s

end ErrorKind

/-- Why an operation failed. -/
inductive ClientError where
  /-- The name was refused. -/
  | experimentNameInvalid
  /-- An experiment of that name is there and cannot be replaced. -/
  | experimentNameConflict
  /-- The definition was refused. -/
  | experimentInvalid
  | experimentNotFound
  /-- The experiment will never have another trial. -/
  | experimentStopped
  /-- The assignments or the values were refused. -/
  | trialInvalid
  /-- There is no trial right now; ask again after so many seconds. -/
  | trialUnavailable (retryAfter : UInt64)
  /-- The report link is unknown or was used before. -/
  | trialNotFound
  | unauthorized
  /-- The response has a status that the operation does not know. -/
  | unexpectedResponse (status : Nat)
  /-- The response succeeded and lacks a field that it has to have. -/
  | missingField (name : String)
  /-- There was no response. -/
  | transport
  /-- The body is no document of the expected kind. -/
  | undecodable (fault : Json.Fault)
  /-- A link or an address is none. -/
  | invalidUrl (text : String) (fault : UrlFault)
  /-- The client cannot be set up. -/
  | config (fault : ConfigFault)
  deriving DecidableEq, Repr

namespace ClientError

/-! ## 1. What a failure means -/

/-- The kind of a failure, if the protocol has a name for it. -/
def kind? : ClientError → Option ErrorKind
  | .experimentNameInvalid => some .experimentNameInvalid
  | .experimentNameConflict => some .experimentNameConflict
  | .experimentInvalid => some .experimentInvalid
  | .experimentNotFound => some .experimentNotFound
  | .experimentStopped => some .experimentStopped
  | .trialInvalid => some .trialInvalid
  | .trialUnavailable _ => some .trialUnavailable
  | .trialNotFound => some .trialNotFound
  | .unauthorized => some .unauthorized
  | .unexpectedResponse _ => some .unexpectedResponse
  | .missingField _ | .transport | .undecodable _ | .invalidUrl _ _ | .config _ => none

/-- How many seconds to wait before asking again, if the server says so. -/
def retryAfter? : ClientError → Option UInt64
  | .trialUnavailable seconds => some seconds
  | _ => none

/-- Whether the same request may succeed later. -/
def isRetryable (e : ClientError) : Bool :=
  e.retryAfter?.isSome

/-- Whether the resource is gone for good, so that asking again is of no use. -/
def isTerminal : ClientError → Bool
  | .experimentStopped | .experimentNotFound | .trialNotFound => true
  | _ => false

/-- The status of a response that was not expected. -/
def status? : ClientError → Option Nat
  | .unexpectedResponse status => some status
  | _ => none

/-- The wording of a failure. -/
def message : ClientError → String
  | .experimentNameInvalid => ErrorKind.experimentNameInvalid.name
  | .experimentNameConflict => ErrorKind.experimentNameConflict.name
  | .experimentInvalid => ErrorKind.experimentInvalid.name
  | .experimentNotFound => ErrorKind.experimentNotFound.name
  | .experimentStopped => ErrorKind.experimentStopped.name
  | .trialInvalid => ErrorKind.trialInvalid.name
  | .trialUnavailable seconds =>
    ErrorKind.trialUnavailable.name ++ " (retry after " ++ Nat.repr seconds.toNat ++ "s)"
  | .trialNotFound => ErrorKind.trialNotFound.name
  | .unauthorized => ErrorKind.unauthorized.name
  | .unexpectedResponse status => "unexpected server response: " ++ Nat.repr status
  | .missingField name => "response is missing the " ++ name ++ " header"
  | .transport => "HTTP request failed"
  | .undecodable fault => "failed to decode response body: " ++ fault.message
  | .invalidUrl text fault => "invalid URL " ++ Text.quotedString text ++ ": " ++ fault.message
  | .config fault => "configuration error: " ++ fault.message

/-! ## 2. What a status means -/

/-- The statuses that an operation knows how to name. -/
abbrev StatusTable := List (Nat × ErrorKind)

/-- Seconds to wait when a response does not say how long. -/
def defaultRetryAfter : UInt64 := 5

/-- How long the header of a response asks to wait. -/
def retryAfter (fields : List Http.Field) : UInt64 :=
  match (Http.valueOf? fields "retry-after").bind Http.text? with
  | none => defaultRetryAfter
  | some text =>
    match Text.readNat Text.maxWord64 (Text.trim text) with
    | .ok seconds => UInt64.ofNat seconds
    | .error _ => defaultRetryAfter

/-- The failure of a kind, with what the response says about it. -/
def ofKind (response : Http.Response) : ErrorKind → ClientError
  | .experimentNameInvalid => .experimentNameInvalid
  | .experimentNameConflict => .experimentNameConflict
  | .experimentInvalid => .experimentInvalid
  | .experimentNotFound => .experimentNotFound
  | .experimentStopped => .experimentStopped
  | .trialInvalid => .trialInvalid
  | .trialUnavailable => .trialUnavailable (retryAfter response.fields)
  | .trialNotFound => .trialNotFound
  | .unauthorized => .unauthorized
  | .unexpectedResponse => .unexpectedResponse response.status

/-- The kind of a status: what the operation says, else what holds for all of them. -/
def kindOfStatus (expected : StatusTable) (status : Nat) : ErrorKind :=
  match expected.lookup status with
  | some kind => kind
  | none => if status = 401 then .unauthorized else .unexpectedResponse

/-- The failure that a response without success stands for. -/
def ofResponse (expected : StatusTable) (response : Http.Response) : ClientError :=
  ofKind response (kindOfStatus expected response.status)

/-- The kind of a failure is the kind it was made for. -/
theorem kind?_ofKind (response : Http.Response) (k : ErrorKind) :
    (ofKind response k).kind? = some k := by
  cases k <;> rfl

end ClientError

end TrialProtocol
