import TrialProtocol.Client.Reply
import TrialProtocol.Url.Reader

/-!
# The client

A client knows the address of a server and what it says in every request. An operation is a *call*: a
request, and what is made of the response. Whether there is a response is up to the network, which is
an argument of `Call.run`.

* Experiments are addressed by name; everything else by links that a server sent (`Client.resolve`).
* Nothing is sent if a link is no address, and nothing is sent twice.
* A user and a password in the address of the server stay in the addresses of its requests. The network
  that carries a request may move them into an `authorization` field, which then stands in place of the
  token's; that step is not modelled.
-/

namespace TrialProtocol

/-- A request with the address that it goes to, user and password included. -/
structure Outgoing where
  method : String
  url : Url
  fields : List Http.Field := []
  body : List UInt8 := []
  deriving DecidableEq, Repr

/-- The request as the server at its address receives it. -/
def Outgoing.received (r : Outgoing) : Http.Request :=
  { method := r.method
    target := r.url.target
    fields := r.fields.map Http.Field.received
    body := r.body }

/-- A request, and what is made of its response. -/
structure Call (α : Type) where
  request : Outgoing
  reply : Reply α

/-- The result of a call over a network, which may have no response. -/
def Call.run {α : Type} (network : Outgoing → Option Http.Response) (call : Call α) :
    Except ClientError α :=
  match network call.request with
  | some response => call.reply.receive response
  | none => .error .transport

/-- A client of the server at an address. -/
structure Client where
  base : Url
  /-- What the header of every request says. -/
  fields : List Http.Field := []
  isFlat_base : base.isFlat = false
  deriving DecidableEq

namespace Client

/-! ## 1. Setting up -/

/-- The client of the server at an address, with the given fields in every request. -/
def atAddress (fields : List Http.Field) (address : String) : Except ClientError Client :=
  match Url.parse address.toList with
  | .error fault => .error (.invalidUrl address fault)
  | .ok base =>
    if h : base.isFlat = false then .ok { base, fields, isFlat_base := h }
    else .error (.config (.notABase (String.ofList base.text)))

/-- A field that every request bears, if its text may be sent. -/
def field (fault : ConfigFault) (name : String) (text : List Char) :
    Except ClientError Http.Field :=
  let f := Http.Field.ofText name text
  if Http.isSendable f.value then .ok f else .error (.config fault)

/-- What a token looks like in a header. -/
def credentials (token : String) : List Char :=
  "Bearer ".toList ++ token.toList

/-- The client with some settings. Of several faults the first counts: the token's, then the agent's,
    then the address's. -/
def ofConfig (config : ClientConfig) : Except ClientError Client := do
  let token ← config.token.toList.mapM fun t => field .badToken "authorization" (credentials t)
  let agent ← field .badUserAgent "user-agent" config.userAgent.toList
  atAddress (token ++ [agent]) config.address

/-- The client of the server at an address, with all other settings at their defaults. -/
def new (address : String) : Except ClientError Client :=
  ofConfig { address }

/-! ## 2. Addresses and requests -/

variable (c : Client)

/-- The name of the collection of experiments, as a segment. -/
def collectionSegment : List Char := "experiments".toList

/-- The address of what lies below the server's. -/
def endpoint (names : List (List Char)) : Url :=
  c.base.below names

/-- The address of the collection of experiments, with a query. -/
def collectionUrl (q : PageQuery) : Url :=
  (c.endpoint [collectionSegment]).withQuery q.encode

/-- The address of an experiment. -/
def experimentUrl (name : ExperimentName) : Url :=
  c.endpoint [collectionSegment, name.text.toList]

/-- The address that a link leads to. -/
def resolve (link : String) : Except ClientError Url :=
  match c.base.join link.toList with
  | .ok url => .ok url
  | .error fault => .error (.invalidUrl link fault)

/-- A request without a body. No field is made of the user and the password of its address. -/
def bare (method : String) (url : Url) : Outgoing :=
  { method, url, fields := c.fields }

/-- A request with a document, and again nothing made of a user and a password. -/
def withJson (method : String) (url : Url) (document : List Char) : Outgoing where
  method := method
  url := url
  fields := c.fields ++ [Http.contentType Http.jsonType]
  body := Utf8.encode document

/-! ## 3. Experiments -/

/-- The page of experiments that a link leads to. -/
def getPage (link : String) : Except ClientError (Call ExperimentList) := do
  return { request := c.bare "GET" (← c.resolve link), reply := .page }

/-- A page of experiments. -/
def listExperiments (q : PageQuery) : Except ClientError (Call ExperimentList) :=
  c.getPage (String.ofList (c.collectionUrl q).text)

/-- The experiment that a link leads to. -/
def getExperiment (link : String) : Except ClientError (Call Experiment) := do
  return { request := c.bare "GET" (← c.resolve link), reply := .experiment }

/-- The experiment with a name. -/
def getExperimentByName (name : ExperimentName) : Except ClientError (Call Experiment) :=
  c.getExperiment (String.ofList (c.experimentUrl name).text)

/-- Creates or replaces the experiment with a name. -/
def createExperiment (name : ExperimentName) (experiment : Experiment) : Call Experiment where
  request := c.withJson "PUT" (c.experimentUrl name) experiment.toJson
  reply := .stored experiment

/-- Deletes the experiment that a link leads to. -/
def deleteExperiment (link : String) : Except ClientError (Call Unit) := do
  return { request := c.bare "DELETE" (← c.resolve link), reply := .deleted }

/-! ## 4. Trials -/

/-- The trials that a link leads to. -/
def listTrials (link : String) : Except ClientError (Call TrialList) := do
  return { request := c.bare "GET" (← c.resolve link), reply := .trials }

/-- Proposes a trial. -/
def createTrial (link : String) (trial : TrialAssignments) : Except ClientError (Call String) := do
  return { request := c.withJson "POST" (← c.resolve link) trial.toJson, reply := .createdTrial }

/-- Asks the dispenser for the next trial. -/
def nextTrial (link : String) : Except ClientError (Call TrialAssignments) := do
  return { request := c.bare "POST" (← c.resolve link), reply := .dispensed }

/-- An outcome as it is sent: a failed one has no values. -/
def sentOutcome (outcome : TrialValues) : TrialValues :=
  if outcome.failed then { outcome with values := [] } else outcome

/-- Reports the outcome of a trial under its link. -/
def reportTrial (link : String) (outcome : TrialValues) : Except ClientError (Call Unit) := do
  return { request := c.withJson "POST" (← c.resolve link) (sentOutcome outcome).toJson,
           reply := .reported }

end Client

end TrialProtocol
