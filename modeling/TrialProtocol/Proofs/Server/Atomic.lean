import TrialProtocol.Proofs.Client.Answer
import TrialProtocol.Proofs.Server.Reachable

/-!
# Requests leave no trace unless they succeed

A request that is answered with a failure has not changed the store, nor has one that only looks. This
is not a matter of course: the server changes the store first and writes the header of the answer
afterwards, and a header that cannot be sent makes the answer an internal error while the change stays.

* It never comes to that, because what the server puts into a header are links to experiments that it
  stores, and it stores them under well-formed names only (`Reachable.isOrderly`).
* `IsCareful` is what every operation keeps to. The answer is an error of the server only if the
  dispenser asks a worker to wait, and then it says for how long.
-/

namespace TrialProtocol

open Http (Field Request Response)

/-! ## 1. Operations of the store -/

namespace Store

variable {s s' : Store} {name : String}

/-- Only an experiment that is there gives out trials. -/
theorem exists_get?_of_dispense {given : Nat × List Assignment}
    (h : s.dispense name = .ok (given, s')) : ∃ e, s.get? name = some e := by
  cases hf : s.get? name with
  | some e => exact ⟨e, rfl⟩
  | none =>
    rw [dispense, find_of_get?_eq_none hf] at h
    cases h

/-- Only an experiment that is there takes trials. -/
theorem exists_get?_of_createTrial {assignments : List Assignment} {id : Nat}
    (h : s.createTrial name assignments = .ok (id, s')) : ∃ e, s.get? name = some e := by
  cases hf : s.get? name with
  | some e => exact ⟨e, rfl⟩
  | none =>
    rw [createTrial, find_of_get?_eq_none hf] at h
    cases h

section Refusals

variable (s name) (limit : UInt32) (other : String)

theorem find_ne_stillRunning : s.find name ≠ .error (.stillRunning limit other) := by
  unfold find
  split <;> simp

theorem put_ne_stillRunning (now : Instant) (experiment : Experiment) :
    s.put now name experiment ≠ .error (.stillRunning limit other) := by
  unfold put
  split
  · simp
  · split
    · simp only
      split <;> simp
    · simp

theorem createTrial_ne_stillRunning (assignments : List Assignment) :
    s.createTrial name assignments ≠ .error (.stillRunning limit other) := by
  unfold createTrial
  cases hf : s.find name with
  | error why =>
    intro h
    cases h
    exact find_ne_stillRunning s name limit other hf
  | ok e =>
    simp only [bind, Except.bind]
    split <;> simp [pure, Except.pure]

theorem report_ne_stillRunning (id : String) (outcome : TrialValues) :
    s.report name id outcome ≠ .error (.stillRunning limit other) := by
  unfold report
  split
  · simp
  · split
    · simp
    · split
      · simp
      · split <;> simp

end Refusals

end Store

namespace Server

/-! ## 2. Careful operations -/

/-- **A careful answer**, with the store that comes with it: if it is a failure then the store is as it
    was, and it is an error of the server only if a worker has to wait, which is told for how long. -/
structure IsCareful (config : ServerConfig) (s : Store) (waits : Prop) (result : Response × Store) :
    Prop where
  traceless : 400 ≤ result.1.status → result.2 = s
  busy : 500 ≤ result.1.status → result.1.status = 503 ∧
    Http.valuesOf result.1.fields "retry-after" =
      [Utf8.encode (Nat.toDigits 10 config.retryAfter.toNat)] ∧ waits

variable {config : ServerConfig} {s : Store} {waits : Prop}

/-- An answer that is no error of the server and comes with the old store. -/
theorem isCareful_of_lt {response : Response} (lt : response.status < 500) :
    IsCareful config s waits (response, s) where
  traceless _ := rfl
  busy ge := absurd ge (Nat.not_le_of_lt lt)

/-- Only a worker that has to wait gets a status of the server's own fault. -/
theorem statusOf_lt_or_stillRunning (why : StoreError) :
    statusOf why < 500 ∨ ∃ limit name, why = .stillRunning limit name := by
  cases why with
  | stillRunning limit name => exact .inr ⟨limit, name, rfl⟩
  | _ => exact .inl (by simp [statusOf])

/-- **An operation of the store is answered with care** if its result can be written down, and it asks
    to wait only where that is allowed. -/
theorem isCareful_after {α : Type} {result : Except StoreError (α × Store)}
    {next : α → Except Refusal Response}
    (written : ∀ x s', result = .ok (x, s') → ∃ response, next x = .ok response ∧ response.status < 400)
    (waiting : ∀ limit name, result = .error (.stillRunning limit name) → waits) :
    IsCareful config s waits (after config s result next) := by
  cases result with
  | ok r =>
    -- the store has changed, so what is left to do must not fail
    obtain ⟨x, s'⟩ := r
    obtain ⟨response, hnext, lt⟩ := written x s' rfl
    rw [after, hnext]
    exact ⟨fun ge => absurd ge (Nat.not_le_of_lt lt),
      fun ge => absurd (Nat.le_trans (by decide) ge) (Nat.not_le_of_lt lt)⟩
  | error why =>
    rcases statusOf_lt_or_stillRunning why with lt | ⟨limit, name, rfl⟩
    · exact isCareful_of_lt lt
    · exact ⟨fun _ => rfl, fun _ => ⟨rfl, valuesOf_retryAfter config limit name,
        waiting limit name rfl⟩⟩

/-- A body that is refused is the client's fault. -/
theorem status_of_readBody {α : Type} {decoder : Json.Decoder α} {body : List UInt8} {r : Refusal}
    (h : readBody decoder body = .error r) : r.status = 422 := by
  unfold readBody at h
  split at h
  · cases h
  · cases h
    rfl

theorem isCareful_of_readBody {α : Type} {decoder : Json.Decoder α} {body : List UInt8}
    {r : Refusal} (h : readBody decoder body = .error r) : IsCareful config s waits (r.response, s) := by
  refine isCareful_of_lt ?_
  show r.status < 500
  rw [status_of_readBody h]
  decide

/-! ## 3. Each operation -/

theorem isCareful_listExperiments (query : List Char) :
    IsCareful config s waits (listExperiments config query s, s) := by
  refine isCareful_of_lt ?_
  unfold listExperiments
  cases readQuery query with
  | error fault => exact (by decide : 400 < 500)
  | ok q =>
    obtain ⟨fields, hfields, -⟩ := exists_linkField (s.page config.pageSize q)
    simp only [hfields]
    exact (by decide : 200 < 500)

theorem isCareful_listTrials (name : String) :
    IsCareful config s waits (listTrials config name s, s) := by
  refine isCareful_of_lt ?_
  unfold listTrials Store.listTrials
  cases hf : s.get? name with
  | none =>
    rw [Store.find_of_get?_eq_none hf]
    exact (by decide : 404 < 500)
  | some e =>
    rw [Store.find_of_get? hf]
    exact (by decide : 200 < 500)

/-- A stored experiment has a header that can be sent, since its name was looked at before. -/
theorem isCareful_putExperiment (now : Instant) (name : String) (body : List UInt8) :
    IsCareful config s waits (putExperiment config now name body s) := by
  unfold putExperiment
  cases hname : ExperimentName.parse name with
  | error e => exact isCareful_of_lt (by decide : 400 < 500)
  | ok parsed =>
    obtain ⟨wf, rfl⟩ := ExperimentName.parse_eq_ok_iff.mp hname
    cases hbody : readBody Experiment.record.decoder body with
    | error r => exact isCareful_of_readBody hbody
    | ok experiment =>
      refine isCareful_after (fun stored s' _ => ?_) fun limit other refused => ?_
      · rw [experimentFields_eq wf, field_experimentPath wf]
        cases stored.created with
        | true => exact ⟨_, rfl, (by decide : 201 < 400)⟩
        | false => exact ⟨_, rfl, (by decide : 200 < 400)⟩
      · exact absurd refused (Store.put_ne_stillRunning s _ limit other now experiment)

theorem isCareful_deleteExperiment (name : String) :
    IsCareful config s waits (deleteExperiment config name s) := by
  refine isCareful_after (fun _ _ _ => ⟨_, rfl, (by decide : 204 < 400)⟩) fun limit other refused => ?_
  rw [Store.delete] at refused
  cases hf : s.find name with
  | ok e =>
    rw [hf] at refused
    cases refused
  | error why =>
    rw [hf] at refused
    cases refused
    exact absurd hf (Store.find_ne_stillRunning s name limit other)

theorem isCareful_reportTrial (name id : String) (body : List UInt8) :
    IsCareful config s waits (reportTrial config name id body s) := by
  unfold reportTrial
  cases hbody : readBody TrialValues.record.decoder body with
  | error r => exact isCareful_of_readBody hbody
  | ok outcome =>
    refine isCareful_after (fun _ _ _ => ⟨_, rfl, (by decide : 201 < 400)⟩)
      fun limit other refused => ?_
    cases hr : s.report name id outcome with
    | ok s' =>
      rw [hr] at refused
      cases refused
    | error why =>
      rw [hr] at refused
      cases refused
      exact absurd hr (Store.report_ne_stillRunning s name limit other id outcome)

section Stored

variable (orderly : IsOrderly s)

include orderly

theorem isCareful_getExperiment (name : String) :
    IsCareful config s waits (getExperiment config name s, s) := by
  refine isCareful_of_lt ?_
  unfold getExperiment
  cases hf : s.get? name with
  | none =>
    rw [Store.find_of_get?_eq_none hf]
    exact (by decide : 404 < 500)
  | some e =>
    rw [Store.find_of_get? hf]
    simp only [experimentFields_eq (orderly.isWellFormed name e hf)]
    exact (by decide : 200 < 500)

/-- A proposed trial has a location that can be sent, since its experiment is stored. -/
theorem isCareful_createTrial (name : String) (body : List UInt8) :
    IsCareful config s waits (createTrial config name body s) := by
  unfold createTrial
  cases hbody : readBody TrialAssignments.record.decoder body with
  | error r => exact isCareful_of_readBody hbody
  | ok trial =>
    refine isCareful_after (fun id s' given => ?_) fun limit other refused => ?_
    · obtain ⟨e, he⟩ := Store.exists_get?_of_createTrial given
      simp only [field_trialPath (orderly.isWellFormed name e he)]
      exact ⟨_, rfl, (by decide : 201 < 400)⟩
    · exact absurd refused (Store.createTrial_ne_stillRunning s name limit other _)

/-- So has a dispensed one. Only the dispenser asks to wait. -/
theorem isCareful_dispenseTrial (name : String)
    (waiting : ∀ why, s.dispense name = .error why → statusOf why = 503 → waits) :
    IsCareful config s waits (dispenseTrial config name s) := by
  refine isCareful_after (fun given s' dispensed => ?_) fun limit other refused => ?_
  · obtain ⟨e, he⟩ := Store.exists_get?_of_dispense dispensed
    simp only [field_trialPath (orderly.isWellFormed name e he)]
    exact ⟨_, rfl, (by decide : 200 < 400)⟩
  · exact waiting _ refused rfl

/-- **Every operation is answered with care.** -/
theorem isCareful_perform (now : Instant) (request : Request) (op : Operation)
    (waiting : ∀ name why, op = .dispenseTrial name → s.dispense name = .error why →
      statusOf why = 503 → waits) :
    IsCareful config s waits (perform config now request s op) := by
  unfold perform
  split
  · exact isCareful_of_lt (by decide : 413 < 500)
  · cases op with
    | listExperiments => exact isCareful_listExperiments _
    | getExperiment name => exact isCareful_getExperiment orderly name
    | putExperiment name => exact isCareful_putExperiment now name _
    | deleteExperiment name => exact isCareful_deleteExperiment name
    | listTrials name => exact isCareful_listTrials name
    | createTrial name => exact isCareful_createTrial orderly name _
    | reportTrial name id => exact isCareful_reportTrial name id _
    | dispenseTrial name =>
      exact isCareful_dispenseTrial orderly name fun why => waiting name why rfl

end Stored

/-! ## 4. Requests -/

/-- The operations that only look. -/
def Operation.looks : Operation → Bool
  | .listExperiments => true
  | .getExperiment _ => true
  | .listTrials _ => true
  | _ => false

theorem snd_perform_of_looks {now : Instant} {request : Request} {op : Operation}
    (h : op.looks = true) : (perform config now request s op).2 = s := by
  unfold perform
  split
  · rfl
  · cases op <;> first | rfl | cases h

/-- An operation on a name is asked for by a name whose escapes can be undone. -/
theorem exists_name_of_decode {part : String} {n : List Char} {f : String → Operation}
    {op : Operation} (h : some ((Route.decode part n).map f) = some (.ok op)) :
    ∃ name, Route.decode part n = .ok name ∧ f name = op := by
  cases hd : Route.decode part n with
  | error part =>
    rw [hd] at h
    cases h
  | ok name =>
    rw [hd] at h
    exact ⟨name, rfl, Except.ok.inj (Option.some.inj h)⟩

/-- What is asked for with `GET` only looks. -/
theorem looks_of_get {route : Route} {op : Operation}
    (h : route.operation? "GET" = some (.ok op)) : op.looks = true := by
  cases route with
  | collection =>
    cases h
    rfl
  | experiment n =>
    obtain ⟨name, -, rfl⟩ := exists_name_of_decode h
    rfl
  | trials n =>
    obtain ⟨name, -, rfl⟩ := exists_name_of_decode h
    rfl
  | trial n i => cases h
  | dispenser n => cases h

/-- Only a `POST` to its dispenser asks for a trial of an experiment. -/
theorem dispenser_of_operation? {route : Route} {method name : String}
    (h : route.operation? method = some (.ok (.dispenseTrial name))) :
    method = "POST" ∧ ∃ part, route = .dispenser part ∧ Route.decode "name" part = .ok name := by
  unfold Route.operation? at h
  -- the dispenser's own route, then the report, whose path has two names, then all others
  split at h
  case h_8 part =>
    obtain ⟨_, hd, he⟩ := exists_name_of_decode h
    cases he
    exact ⟨rfl, part, rfl, hd⟩
  case h_7 n i =>
    cases hn : Route.decode "name" n <;> cases hi : Route.decode "id" i <;>
      simp [hn, hi, bind, Except.bind, pure, Except.pure] at h
  all_goals first
    | cases h
    | obtain ⟨_, -, he⟩ := exists_name_of_decode h
      cases he

/-- A request for a trial of an experiment: a `POST` to its dispenser. -/
def AsksForTrial (request : Request) (name : String) : Prop :=
  request.method = "POST" ∧ ∃ part, Route.ofPath? (pathOf request.target) = some (.dispenser part) ∧
    Route.decode "name" part = .ok name

/-- **A request leaves no trace unless it succeeds**: what is to be said of the response to a request
    and of the store that comes with it. -/
structure LeavesNoTrace (config : ServerConfig) (request : Request) (s : Store)
    (result : Response × Store) : Prop where
  failed : 400 ≤ result.1.status → result.2 = s
  looked : request.method = "GET" ∨ request.method = "HEAD" → result.2 = s
  internal : result.1.status ≠ 500
  /-- The server is only ever at fault where its dispenser asks a worker to wait, and says how long. -/
  busy : 500 ≤ result.1.status → result.1.status = 503 ∧
    Http.valuesOf result.1.fields "retry-after" =
      [Utf8.encode (Nat.toDigits 10 config.retryAfter.toNat)] ∧
    ∃ name why, AsksForTrial request name ∧ s.dispense name = .error why ∧ statusOf why = 503

theorem effectiveMethod_eq_post {method : String} (h : effectiveMethod method = "POST") :
    method = "POST" := by
  unfold effectiveMethod at h
  split at h
  · exact absurd h (by decide)
  · exact h

theorem effectiveMethod_of_looking {method : String} (h : method = "GET" ∨ method = "HEAD") :
    effectiveMethod method = "GET" := by
  rcases h with rfl | rfl <;> decide

section Requests

variable (orderly : IsOrderly s) (now : Instant) (request : Request)

include orderly

/-- **Every request is answered with care.** -/
theorem isCareful_handle : IsCareful config s
    (∃ name why, AsksForTrial request name ∧ s.dispense name = .error why ∧ statusOf why = 503)
    (handle config now request s) := by
  unfold handle
  split
  · exact isCareful_of_lt (by decide : 404 < 500)
  · rename_i route path
    split
    · exact isCareful_of_lt (by decide : 405 < 500)
    · exact isCareful_of_lt (by decide : 400 < 500)
    · rename_i op method
      refine isCareful_perform orderly now request op fun name why asked refused status => ?_
      rw [asked] at method
      obtain ⟨post, part, rfl, named⟩ := dispenser_of_operation? method
      exact ⟨name, why, ⟨effectiveMethod_eq_post post, part, path, named⟩, refused, status⟩

omit orderly in
theorem snd_handle_of_looking (h : request.method = "GET" ∨ request.method = "HEAD") :
    (handle config now request s).2 = s := by
  unfold handle
  split
  · rfl
  · split
    · rfl
    · rfl
    · rename_i method
      rw [effectiveMethod_of_looking h] at method
      exact snd_perform_of_looks (looks_of_get method)

end Requests

/-- A careful answer stays one if only its header is sent. -/
theorem IsCareful.leavesNoTrace {request : Request} {result : Response × Store}
    (careful : IsCareful config s (∃ name why, AsksForTrial request name ∧
      s.dispense name = .error why ∧ statusOf why = 503) result)
    (looked : request.method = "GET" ∨ request.method = "HEAD" → result.2 = s) :
    LeavesNoTrace config request s
      (if request.method = "HEAD" then result.1.withoutBody else result.1, result.2) := by
  have status : (if request.method = "HEAD" then result.1.withoutBody else result.1).status =
      result.1.status := by split <;> rfl
  have fields : (if request.method = "HEAD" then result.1.withoutBody else result.1).fields =
      result.1.fields := by split <;> rfl
  constructor
  case failed =>
    intro ge
    rw [status] at ge
    exact careful.traceless ge
  case looked => exact looked
  case internal =>
    intro internal
    rw [status] at internal
    have busy := (careful.busy (Nat.le_of_eq internal.symm)).1
    omega
  case busy =>
    intro ge
    rw [status] at ge ⊢
    rw [fields]
    exact careful.busy ge

/-- **In every store that a server comes to, every request leaves no trace unless it succeeds.** -/
theorem respond_leavesNoTrace (reachable : Reachable config s) (now : Instant) (request : Request) :
    LeavesNoTrace config request s (respond config now request s) := by
  unfold respond
  by_cases authorized : isAuthorized config request.fields = true
  · rw [if_pos authorized]
    exact (isCareful_handle reachable.isOrderly now request).leavesNoTrace
      (snd_handle_of_looking now request)
  · rw [if_neg authorized]
    exact IsCareful.leavesNoTrace (isCareful_of_lt (by decide : 401 < 500)) fun _ => rfl

/-- A worker that asks for a second trial while the first one runs is told to wait. -/
theorem respond_leavesNoTrace_sample : ∃ (s : Store) (request : Request),
    Reachable {} s ∧ AsksForTrial request "sample" ∧
      (respond {} ⟨0, false⟩ request s).1.status = 503 ∧
      LeavesNoTrace {} request s (respond {} ⟨0, false⟩ request s) := by
  let put : Request :=
    { method := "PUT"
      target := "/experiments/sample".toList
      body := Utf8.encode Experiment.sample.toJson }
  let ask : Request := { method := "POST", target := "/experiments/sample/nextTrial".toList }
  have reachable : Reachable {} _ :=
    (Reachable.start.step ⟨0, false⟩ put).step ⟨0, false⟩ ask
  have asks : AsksForTrial ask "sample" :=
    ⟨rfl, "sample".toList, by decide, by decide⟩
  exact ⟨_, ask, reachable, asks, by decide +kernel,
    respond_leavesNoTrace reachable ⟨0, false⟩ ask⟩

end Server

end TrialProtocol
