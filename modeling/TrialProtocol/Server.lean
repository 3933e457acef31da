import TrialProtocol.Experiment.Format
import TrialProtocol.Http.Message
import TrialProtocol.Server.Query
import TrialProtocol.Server.Route
import TrialProtocol.Store
import TrialProtocol.Trial.Format

/-!
# The server

How a server answers a request from its store: `respond` gives the response and the store afterwards.

* With a token configured, a request without it is refused before anything else is looked at.
* Links are sent in the header and never in a body.
* A refused operation leaves the store as it was. So does a request for the header only, since no
  method that it stands for changes anything.
-/

namespace TrialProtocol.Server

open Http (Field Request Response)

/-! ## 1. Refusals -/

/-- A refusal: a status, a message, and perhaps a time after which to ask again. -/
structure Refusal where
  status : Nat
  message : String
  retryAfter : Option UInt64 := none
  deriving DecidableEq, Repr

/-- The status of a refused operation. -/
def statusOf : StoreError → Nat
  | .invalid _ => 422
  | .differentParameters _ => 409
  | .experimentNotFound _ => 404
  | .noMoreTrials _ => 410
  | .stillRunning _ _ => 503
  | .unknownParameter _ => 422
  | .trialNotFound _ _ => 404
  | .unknownMetric _ => 422

/-- The refusal of an operation. Only a worker that has to wait is told for how long. -/
def Refusal.ofStoreError (config : ServerConfig) (e : StoreError) : Refusal where
  status := statusOf e
  message := e.message
  retryAfter := match e with
    | .stillRunning _ _ => some config.retryAfter
    | _ => none

/-- The refusal of a name. -/
def Refusal.ofInvalidName (e : InvalidName) : Refusal :=
  { status := 400, message := e.message }

/-- The refusal of a body. The line and the column of the fault are left out of its message. -/
def Refusal.ofFault (f : Json.Fault) : Refusal :=
  { status := 422, message := f.message }

/-- The refusal of a request without the token. -/
def Refusal.unauthorized : Refusal :=
  { status := 401, message := "unauthorized" }

/-- The failure of a response whose header could not be written. -/
def Refusal.ofHeaderValue (value : List Char) : Refusal where
  status := 500
  message := "invalid header value " ++ String.ofList (Text.quoted value) ++
    ": failed to parse header value"

/-- The response that tells a refusal. -/
def Refusal.response (r : Refusal) : Response :=
  Response.ofJson r.status
    (r.retryAfter.map fun n => Field.ofText "retry-after" (Nat.toDigits 10 n.toNat)).toList
    (Json.Writer.object [Json.Writer.member "error" (Json.Writer.string r.message)])

/-! ## 2. Header fields -/

/-- A field with a text that may be sent. -/
def field (name : String) (text : List Char) : Except Refusal Field :=
  let f := Field.ofText name text
  if Http.isSendable f.value then .ok f else .error (.ofHeaderValue text)

/-- The path of an experiment's trials. -/
def trialsPath (name : String) : String :=
  Store.experimentPath name ++ "/trials"

/-- The path of the dispenser of an experiment's next trial. -/
def nextTrialPath (name : String) : String :=
  Store.experimentPath name ++ "/nextTrial"

/-- The path of a trial. -/
def trialPath (name : String) (id : Nat) : String :=
  trialsPath name ++ "/" ++ String.ofList (Nat.toDigits 10 id)

/-- The path of a page. -/
def pagePath (q : PageQuery) : String :=
  match q.encode with
  | [] => Store.collectionPath
  | query => Store.collectionPath ++ "?" ++ String.ofList query

/-- The field with some links, none if there are none. -/
def linkField (links : List Link) : Except Refusal (List Field) :=
  if links.isEmpty then .ok []
  else (field "link" (Link.joined links)).map ([·])

/-- The links of an experiment. -/
def experimentLinks (name : String) : List Link :=
  [{ uri := Store.experimentPath name, rel := Link.relSelf },
    { uri := trialsPath name, rel := Link.relTrials },
    { uri := nextTrialPath name, rel := Link.relNextTrial }]

/-- The header of an experiment: its links and the time of its last change. -/
def experimentFields (name : String) (lastModified : Instant) : Except Refusal (List Field) := do
  let links ← linkField (experimentLinks name)
  return links ++ [← field "last-modified" (Calendar.format lastModified)]

/-- The links of a page. -/
def pageLinks (p : Store.Page) : List Link :=
  (p.next.map fun q => { uri := pagePath q, rel := Link.relNext }).toList ++
    (p.prev.map fun q => { uri := pagePath q, rel := Link.relPrev }).toList

/-! ## 3. Operations -/

/-- The longest body that is read. -/
def maxBody : Nat := 2 * 1024 * 1024

/-- Reads a document from a body. -/
def readBody {α : Type} (decoder : Json.Decoder α) (body : List UInt8) : Except Refusal α :=
  match Json.readAll decoder (Utf8.units body) with
  | .ok x => .ok x
  | .error f => .error (.ofFault f)

/-- The response that a result stands for. -/
def answer : Except Refusal Response → Response
  | .ok r => r
  | .error r => r.response

variable (config : ServerConfig)

/-- The response to what a refused operation gives, with the store unchanged, and otherwise what
    follows from its result and its store. -/
def after {α : Type} (s : Store) (result : Except StoreError (α × Store))
    (next : α → Except Refusal Response) : Response × Store :=
  match result with
  | .ok (x, s) => (answer (next x), s)
  | .error e => ((Refusal.ofStoreError config e).response, s)

/-- A page of experiments. -/
def listExperiments (query : List Char) (s : Store) : Response :=
  match readQuery query with
  | .error fault => Response.ofText 400 fault.message
  | .ok q =>
    let page := s.page config.pageSize q
    answer do
      let fields ← linkField (pageLinks page)
      return Response.ofJson 200 fields
        (ExperimentList.toJson { experiments := page.experiments })

/-- An experiment with its links. -/
def getExperiment (name : String) (s : Store) : Response :=
  match s.find name with
  | .error e => (Refusal.ofStoreError config e).response
  | .ok e => answer do
    return Response.ofJson 200 (← experimentFields name e.lastModified) e.experiment.toJson

/-- Creates or replaces an experiment. -/
def putExperiment (now : Instant) (name : String) (body : List UInt8) (s : Store) :
    Response × Store :=
  match ExperimentName.parse name with
  | .error e => ((Refusal.ofInvalidName e).response, s)
  | .ok name =>
    match readBody Experiment.record.decoder body with
    | .error r => (r.response, s)
    | .ok experiment =>
      after config s (s.put now name.text experiment) fun stored => do
        let fields ← experimentFields name.text stored.lastModified
        if stored.created then
          let location ← field "location" (Store.experimentPath name.text).toList
          return Response.ofJson 201 (fields ++ [location]) stored.experiment.toJson
        else return Response.ofJson 200 fields stored.experiment.toJson

/-- Deletes an experiment. -/
def deleteExperiment (name : String) (s : Store) : Response × Store :=
  after config s ((s.delete name).map ((), ·)) fun () => .ok { status := 204 }

/-- The trials of an experiment. -/
def listTrials (name : String) (s : Store) : Response :=
  match s.listTrials name with
  | .error e => (Refusal.ofStoreError config e).response
  | .ok trials => Response.ofJson 200 [] (TrialList.toJson { trials })

/-- Stores a trial that a worker proposes. -/
def createTrial (name : String) (body : List UInt8) (s : Store) : Response × Store :=
  match readBody TrialAssignments.record.decoder body with
  | .error r => (r.response, s)
  | .ok trial =>
    after config s (s.createTrial name trial.assignments) fun id => do
      return { status := 201, fields := [← field "location" (trialPath name id).toList] }

/-- Dispenses the next trial. -/
def dispenseTrial (name : String) (s : Store) : Response × Store :=
  after config s (s.dispense name) fun (id, assignments) => do
    let location ← field "location" (trialPath name id).toList
    return Response.ofJson 200 [location] (TrialAssignments.toJson { assignments })

/-- Takes the report of a trial. -/
def reportTrial (name id : String) (body : List UInt8) (s : Store) : Response × Store :=
  match readBody TrialValues.record.decoder body with
  | .error r => (r.response, s)
  | .ok outcome =>
    after config s ((s.report name id outcome).map ((), ·)) fun () => .ok { status := 201 }

/-! ## 4. Requests -/

/-- Whether an operation reads the body of its request. -/
def Operation.readsBody : Operation → Bool
  | .putExperiment _ => true
  | .createTrial _ => true
  | .reportTrial _ _ => true
  | _ => false

/-- Carries out an operation. -/
def perform (now : Instant) (request : Request) (s : Store) (op : Operation) : Response × Store :=
  if op.readsBody && maxBody < request.body.length then
    (Response.ofText 413 "Failed to buffer the request body: length limit exceeded", s)
  else
    match op with
    | .listExperiments => (listExperiments config (queryOf request.target) s, s)
    | .getExperiment name => (getExperiment config name s, s)
    | .putExperiment name => putExperiment config now name request.body s
    | .deleteExperiment name => deleteExperiment config name s
    | .listTrials name => (listTrials config name s, s)
    | .createTrial name => createTrial config name request.body s
    | .reportTrial name id => reportTrial config name id request.body s
    | .dispenseTrial name => dispenseTrial config name s

/-- Whether a request bears the token, where one is needed. -/
def isAuthorized (fields : List Field) : Bool :=
  match config.token with
  | none => true
  | some token =>
    match (Http.valueOf? fields "authorization").bind Http.text? with
    | some value => value == "Bearer ".toList ++ token.toList
    | none => false

/-- The field that names the methods of a resource. -/
def allowField (route : Route) : Field :=
  Field.ofText "allow" (",".intercalate route.methods).toList

/-- The field with the methods, if a request's method is none of them. -/
def allowFields (method : String) (route : Option Route) : List Field :=
  match route with
  | some r => if method ∈ r.methods then [] else [allowField r]
  | none => []

/-- The response to a request that bears the token, and the store afterwards. -/
def handle (now : Instant) (request : Request) (s : Store) : Response × Store :=
  match Route.ofPath? (pathOf request.target) with
  | none => ({ status := 404 }, s)
  | some route =>
    match route.operation? (effectiveMethod request.method) with
    | none => ({ status := 405, fields := [allowField route] }, s)
    | some (.error part) =>
      (Response.ofText 400 ("Invalid URL: Invalid UTF-8 in `" ++ part ++ "`"), s)
    | some (.ok op) => perform config now request s op

/-- The response to a request and the store afterwards. -/
def respond (now : Instant) (request : Request) (s : Store) : Response × Store :=
  let (response, s) :=
    if isAuthorized config request.fields then handle config now request s
    else
      let refused := Refusal.unauthorized.response
      let route := Route.ofPath? (pathOf request.target)
      ({ refused with fields := refused.fields ++ allowFields request.method route }, s)
  (if request.method = "HEAD" then response.withoutBody else response, s)

end TrialProtocol.Server
