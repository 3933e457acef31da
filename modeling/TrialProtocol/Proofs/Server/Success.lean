import TrialProtocol.Proofs.Server.Atomic

/-!
# What a success tells

A request that is not refused was let in, asks for one operation, and this operation was carried out.
`Success` lists what there is to see of it then, one case for each operation: what the operation read,
what the store did, and the response. Whatever is to be shown about answers of the server, or about
what its requests do in the long run, goes by these cases.

* `asked?`: the operation that a request asks for.
* `success_of_perform`: an operation that is not refused.
* `exists_success`: a request that is not refused.
-/

namespace TrialProtocol.Server

open Http (Field Request Response)

/-! ## 1. What a request asks for -/

/-- The operation that a request asks for. -/
def asked? (request : Request) : Option Operation :=
  match (Route.ofPath? (pathOf request.target)).bind
      fun route => route.operation? (effectiveMethod request.method) with
  | some (.ok op) => some op
  | _ => none

variable {config : ServerConfig} {now : Instant} {request : Request} {s : Store} {op : Operation}

/-- A request that is let in gets the operation that it asks for. -/
theorem handle_of_asked (h : asked? request = some op) :
    handle config now request s = perform config now request s op := by
  unfold asked? at h
  unfold handle
  cases hroute : Route.ofPath? (pathOf request.target) with
  | none =>
    rw [hroute] at h
    cases h
  | some route =>
    rw [hroute, Option.bind_some] at h
    split at h
    · rename_i hop
      cases h
      simp only [hop]
    · cases h

/-- If it asks for none then it is refused. -/
theorem status_handle_of_unasked (h : asked? request = none) :
    400 ≤ (handle config now request s).1.status ∧ (handle config now request s).2 = s := by
  unfold asked? at h
  unfold handle
  cases hroute : Route.ofPath? (pathOf request.target) with
  | none => exact ⟨(by decide : 400 ≤ 404), rfl⟩
  | some route =>
    rw [hroute, Option.bind_some] at h
    simp only
    split
    · exact ⟨(by decide : 400 ≤ 405), rfl⟩
    · exact ⟨(by decide : 400 ≤ 400), rfl⟩
    · rename_i hop
      rw [hop] at h
      cases h

/-! ## 2. Success -/

/-- **What there is to see of an operation that was carried out**: the response, and the store
    afterwards. -/
inductive Success (config : ServerConfig) (now : Instant) (request : Request) (s : Store) :
    Operation → Response → Store → Prop where
  | listed {q : PageQuery} {fields : List Field}
      (query : readQuery (queryOf request.target) = .ok q)
      (links : linkField (pageLinks (s.page config.pageSize q)) = .ok fields) :
      Success config now request s .listExperiments
        (Response.ofJson 200 fields
          (ExperimentList.toJson { experiments := (s.page config.pageSize q).experiments })) s
  | shown {name : String} {e : StoredExperiment} (stored : s.get? name = some e) :
      Success config now request s (.getExperiment name)
        { status := 200
          fields := experimentHeader name e.lastModified []
          body := Utf8.encode e.experiment.toJson } s
  | put {name : String} {submitted : Experiment} {stored : Store.Stored} {s' : Store}
      (wf : ExperimentName.isWellFormed name.toList = true)
      (body : readBody Experiment.record.decoder request.body = .ok submitted)
      (done : s.put now name submitted = .ok (stored, s')) :
      Success config now request s (.putExperiment name)
        { status := if stored.created then 201 else 200
          fields := experimentHeader name stored.lastModified
            (if stored.created then [Field.ofText "location" (Store.experimentPath name).toList]
              else [])
          body := Utf8.encode stored.experiment.toJson } s'
  | deleted {name : String} {s' : Store} (done : s.delete name = .ok s') :
      Success config now request s (.deleteExperiment name) { status := 204 } s'
  | trials {name : String} {items : List TrialItem} (done : s.listTrials name = .ok items) :
      Success config now request s (.listTrials name)
        (Response.ofJson 200 [] (TrialList.toJson { trials := items })) s
  | created {name : String} {trial : TrialAssignments} {id : Nat} {s' : Store}
      (body : readBody TrialAssignments.record.decoder request.body = .ok trial)
      (done : s.createTrial name trial.assignments = .ok (id, s')) :
      Success config now request s (.createTrial name)
        { status := 201, fields := [Field.ofText "location" (trialPath name id).toList] } s'
  | dispensed {name : String} {id : Nat} {assignments : List Assignment} {s' : Store}
      (done : s.dispense name = .ok ((id, assignments), s')) :
      Success config now request s (.dispenseTrial name)
        (Response.ofJson 200 [Field.ofText "location" (trialPath name id).toList]
          (TrialAssignments.toJson { assignments })) s'
  | reported {name id : String} {outcome : TrialValues} {s' : Store}
      (body : readBody TrialValues.record.decoder request.body = .ok outcome)
      (done : s.report name id outcome = .ok s') :
      Success config now request s (.reportTrial name id) { status := 201 } s'

/-- Only what the store did is answered with a success. -/
theorem after_of_lt {α : Type} {result : Except StoreError (α × Store)}
    {next : α → Except Refusal Response} (lt : (after config s result next).1.status < 400) :
    ∃ x s', result = .ok (x, s') ∧ after config s result next = (answer (next x), s') := by
  cases result with
  | ok r => exact ⟨r.1, r.2, rfl, rfl⟩
  | error why => exact absurd lt (Nat.not_lt_of_le (statusOf_ge why))

/-- A body that cannot be read is refused. -/
theorem not_lt_of_readBody {α : Type} {decoder : Json.Decoder α} {body : List UInt8} {r : Refusal}
    (h : readBody decoder body = .error r) : ¬r.response.status < 400 := by
  show ¬r.status < 400
  rw [status_of_readBody h]
  decide

section Operations

variable (orderly : IsOrderly s)

theorem success_listExperiments
    (lt : (listExperiments config (queryOf request.target) s).status < 400) :
    Success config now request s .listExperiments
      (listExperiments config (queryOf request.target) s) s := by
  unfold listExperiments at lt ⊢
  cases query : readQuery (queryOf request.target) with
  | error fault =>
    rw [query] at lt
    exact absurd lt (by decide : ¬400 < 400)
  | ok q =>
    obtain ⟨fields, links, -⟩ := exists_linkField (s.page config.pageSize q)
    simp only [links]
    exact .listed query links

theorem success_putExperiment {name : String}
    (lt : (putExperiment config now name request.body s).1.status < 400) :
    Success config now request s (.putExperiment name)
      (putExperiment config now name request.body s).1
      (putExperiment config now name request.body s).2 := by
  unfold putExperiment at lt ⊢
  cases hname : ExperimentName.parse name with
  | error e =>
    rw [hname] at lt
    exact absurd lt (by decide : ¬400 < 400)
  | ok parsed =>
    obtain ⟨wf, rfl⟩ := ExperimentName.parse_eq_ok_iff.mp hname
    cases body : readBody Experiment.record.decoder request.body with
    | error r =>
      rw [hname, body] at lt
      exact absurd lt (not_lt_of_readBody body)
    | ok submitted =>
      rw [hname, body] at lt
      simp only at lt ⊢
      obtain ⟨stored, s', done, same⟩ := after_of_lt lt
      rw [same, experimentFields_eq wf, field_experimentPath wf]
      have success : Success config now request s (.putExperiment _) _ s' := .put wf body done
      -- the header of a new experiment has one field more
      cases hcreated : stored.created with
      | true =>
        rw [hcreated] at success
        exact success
      | false =>
        rw [hcreated] at success
        exact success

theorem success_deleteExperiment {name : String}
    (lt : (deleteExperiment config name s).1.status < 400) :
    Success config now request s (.deleteExperiment name) (deleteExperiment config name s).1
      (deleteExperiment config name s).2 := by
  obtain ⟨_, s', done, same⟩ := after_of_lt lt
  have deleted : s.delete name = .ok s' := by
    cases hd : s.delete name with
    | error why =>
      rw [hd] at done
      cases done
    | ok t =>
      rw [hd] at done
      cases done
      rfl
  rw [deleteExperiment, same]
  exact .deleted deleted

theorem success_listTrials {name : String} (lt : (listTrials config name s).status < 400) :
    Success config now request s (.listTrials name) (listTrials config name s) s := by
  unfold listTrials at lt ⊢
  cases done : s.listTrials name with
  | error why =>
    rw [done] at lt
    exact absurd lt (Nat.not_lt_of_le (statusOf_ge why))
  | ok items => exact .trials done

theorem success_reportTrial {name id : String}
    (lt : (reportTrial config name id request.body s).1.status < 400) :
    Success config now request s (.reportTrial name id)
      (reportTrial config name id request.body s).1
      (reportTrial config name id request.body s).2 := by
  unfold reportTrial at lt ⊢
  cases body : readBody TrialValues.record.decoder request.body with
  | error r =>
    rw [body] at lt
    exact absurd lt (not_lt_of_readBody body)
  | ok outcome =>
    rw [body] at lt
    obtain ⟨_, s', done, same⟩ := after_of_lt lt
    have reported : s.report name id outcome = .ok s' := by
      cases hr : s.report name id outcome with
      | error why =>
        rw [hr] at done
        cases done
      | ok t =>
        rw [hr] at done
        cases done
        rfl
    simp only [same]
    exact .reported body reported

include orderly

theorem success_getExperiment {name : String}
    (lt : (getExperiment config name s).status < 400) :
    Success config now request s (.getExperiment name) (getExperiment config name s) s := by
  unfold getExperiment at lt ⊢
  cases stored : s.get? name with
  | none =>
    rw [Store.find_of_get?_eq_none stored] at lt
    exact absurd lt (Nat.not_lt_of_le (statusOf_ge (.experimentNotFound name)))
  | some e =>
    rw [Store.find_of_get? stored]
    simp only [experimentFields_eq (orderly.isWellFormed name e stored)]
    exact .shown stored

theorem success_createTrial {name : String}
    (lt : (createTrial config name request.body s).1.status < 400) :
    Success config now request s (.createTrial name)
      (createTrial config name request.body s).1 (createTrial config name request.body s).2 := by
  unfold createTrial at lt ⊢
  cases body : readBody TrialAssignments.record.decoder request.body with
  | error r =>
    rw [body] at lt
    exact absurd lt (not_lt_of_readBody body)
  | ok trial =>
    rw [body] at lt
    simp only at lt ⊢
    obtain ⟨id, s', done, same⟩ := after_of_lt lt
    obtain ⟨e, stored⟩ := Store.exists_get?_of_createTrial done
    rw [same, field_trialPath (orderly.isWellFormed name e stored)]
    exact .created body done

theorem success_dispenseTrial {name : String}
    (lt : (dispenseTrial config name s).1.status < 400) :
    Success config now request s (.dispenseTrial name) (dispenseTrial config name s).1
      (dispenseTrial config name s).2 := by
  obtain ⟨⟨id, assignments⟩, s', done, same⟩ := after_of_lt lt
  obtain ⟨e, stored⟩ := Store.exists_get?_of_dispense done
  rw [dispenseTrial, same]
  simp only [field_trialPath (orderly.isWellFormed name e stored)]
  exact .dispensed done

/-- **An operation that is not refused was carried out.** -/
theorem success_of_perform (lt : (perform config now request s op).1.status < 400) :
    Success config now request s op (perform config now request s op).1
      (perform config now request s op).2 := by
  unfold perform at lt ⊢
  split at lt
  · exact absurd lt (by decide : ¬413 < 400)
  · rename_i short
    rw [if_neg short]
    cases op with
    | listExperiments => exact success_listExperiments lt
    | getExperiment name => exact success_getExperiment orderly lt
    | putExperiment name => exact success_putExperiment lt
    | deleteExperiment name => exact success_deleteExperiment lt
    | listTrials name => exact success_listTrials lt
    | createTrial name => exact success_createTrial orderly lt
    | reportTrial name id => exact success_reportTrial lt
    | dispenseTrial name => exact success_dispenseTrial orderly lt

/-- **A request that is not refused** was let in, and what it asks for was carried out. Of the
    response a request for the header gets the header. -/
theorem exists_success (lt : (respond config now request s).1.status < 400) :
    isAuthorized config request.fields = true ∧ ∃ op response,
      asked? request = some op ∧
      Success config now request s op response (respond config now request s).2 ∧
      (respond config now request s).1 =
        if request.method = "HEAD" then response.withoutBody else response := by
  by_cases authorized : isAuthorized config request.fields = true
  · rw [respond, if_pos authorized] at lt ⊢
    have status : (handle config now request s).1.status < 400 := by
      simp only at lt
      split at lt
      · exact lt
      · exact lt
    cases ha : asked? request with
    | none => exact absurd status (Nat.not_lt_of_le (status_handle_of_unasked ha).1)
    | some op =>
      rw [handle_of_asked ha] at status ⊢
      exact ⟨authorized, op, _, rfl, success_of_perform orderly status, rfl⟩
  · rw [respond, if_neg authorized] at lt
    simp only at lt
    split at lt
    · exact absurd lt (by decide : ¬401 < 400)
    · exact absurd lt (by decide : ¬401 < 400)

/-- So what it asks for is known to have been carried out. -/
theorem success_of_asked (asked : asked? request = some op)
    (lt : (respond config now request s).1.status < 400) : ∃ response,
      Success config now request s op response (respond config now request s).2 ∧
      (respond config now request s).1.fields = response.fields := by
  obtain ⟨-, op', response, asked', success, same⟩ := exists_success orderly lt
  rw [asked] at asked'
  cases asked'
  refine ⟨response, success, ?_⟩
  rw [same]
  split <;> rfl

end Operations

end TrialProtocol.Server
