import TrialProtocol.Proofs.Exchange
import TrialProtocol.Proofs.Server.Reachable

/-!
# The client as a proxy of the store

A client does through requests what the store does itself: each of its calls succeeds exactly if the
operation of the store does, gives the same data and leaves the same store behind. A refused operation
leaves the store as it was and becomes the failure that its status stands for.

* `exchange_get`, `exchange_create` and their kin: one lemma for each call.
* `IsFaithful`: every call at once. It holds as long as the server can read its own token.
-/

namespace TrialProtocol.Proxy

open Http (Field Request Response)

/-! ## 1. Answers of the server -/

/-- What the server answers to a stored experiment. -/
def storedAnswer (name : String) (stored : Store.Stored) : Except Server.Refusal Response := do
  let fields ← Server.experimentFields name stored.lastModified
  if stored.created then
    let location ← Server.field "location" (Store.experimentPath name).toList
    return Response.ofJson 201 (fields ++ [location]) stored.experiment.toJson
  else return Response.ofJson 200 fields stored.experiment.toJson

/-- What it answers to a proposed trial. -/
def createdAnswer (name : String) (id : Nat) : Except Server.Refusal Response := do
  return { status := 201, fields := [← Server.field "location" (Server.trialPath name id).toList] }

/-- What it answers to a worker that asks for a trial. -/
def dispensedAnswer (name : String) (trial : Nat × List Assignment) :
    Except Server.Refusal Response := do
  let location ← Server.field "location" (Server.trialPath name trial.1).toList
  return Response.ofJson 200 [location] (TrialAssignments.toJson { assignments := trial.2 })

section Answers

variable {name : String} (wf : ExperimentName.isWellFormed name.toList = true)

include wf

theorem receive_storedAnswer (stored : Store.Stored) (submitted : Experiment) :
    (Reply.stored submitted).receive (Server.answer (storedAnswer name stored)) =
      .ok { stored.experiment with
            links := Server.experimentMeta name stored.lastModified } := by
  rw [storedAnswer, Server.experimentFields_eq wf, Server.field_experimentPath wf]
  obtain ⟨created, experiment, lastModified⟩ := stored
  cases created with
  | true => exact Reply.receive_stored wf lastModified _ (.inr ⟨rfl, rfl⟩)
  | false => exact Reply.receive_stored wf lastModified [] (.inl ⟨rfl, rfl⟩)

theorem receive_createdAnswer (id : Nat) :
    Reply.createdTrial.receive (Server.answer (createdAnswer name id)) =
      .ok (Server.trialPath name id) := by
  rw [createdAnswer, Server.field_trialPath wf]
  exact Reply.receive_createdTrial wf id

theorem receive_dispensedAnswer (trial : Nat × List Assignment) :
    Reply.dispensed.receive (Server.answer (dispensedAnswer name trial)) =
      .ok { links := { report := some (Server.trialPath name trial.1) }
            assignments := trial.2 } := by
  rw [dispensedAnswer, Server.field_trialPath wf]
  exact Reply.receive_dispensed wf trial.1 trial.2

end Answers

/-- An entry of a page is a stored experiment under its link. -/
theorem exists_of_mem_page {s : Store} {pageSize : UInt32} {q : PageQuery} {i : ExperimentItem}
    (h : i ∈ (s.page pageSize q).experiments) : ∃ name e, s.get? name = some e ∧
      i = { experiment := e.experiment, itemRef := some (Store.experimentPath name) } := by
  obtain ⟨⟨name, e⟩, hm, rfl⟩ := List.mem_map.mp h
  exact ⟨name, e, Server.get?_of_mem_toList (List.mem_of_mem_drop (List.mem_of_mem_take hm)), rfl⟩

theorem experimentPath_ne (name : String) : Store.experimentPath name ≠ "" := by
  intro h
  have hl := toList_experimentPath name
  rw [h] at hl
  cases hl

/-- A page of an orderly store is read by a client, whatever the query was. -/
theorem receive_listExperiments {config : ServerConfig} {s : Store} (orderly : Server.IsOrderly s)
    {query : List Char} {q : PageQuery} (readable : Server.readQuery query = .ok q) :
    Reply.page.receive (Server.listExperiments config query s) =
      .ok { links := Server.pageMeta (s.page config.pageSize q)
            experiments := (s.page config.pageSize q).experiments } := by
  have hkept : ∀ i ∈ (s.page config.pageSize q).experiments, i.experiment.kept = i.experiment := by
    intro i hi
    obtain ⟨name, e, he, rfl⟩ := exists_of_mem_page hi
    have hlinks := orderly.unlinked name e he
    show { e.experiment with links := {} } = e.experiment
    rw [← hlinks]
  have hnamed : ∀ i ∈ (s.page config.pageSize q).experiments, i.itemRef ≠ some "" := by
    intro i hi
    obtain ⟨name, e, -, rfl⟩ := exists_of_mem_page hi
    exact fun h => experimentPath_ne name (Option.some.inj h)
  obtain ⟨fields, hfields, hlinks⟩ := Server.exists_linkField (s.page config.pageSize q)
  have hlist : Server.listExperiments config query s = Response.ofJson 200 fields
      (ExperimentList.toJson { experiments := (s.page config.pageSize q).experiments }) := by
    rw [Server.listExperiments, readable]
    simp only [hfields]
    rfl
  rw [hlist, Reply.receive_page hkept hnamed hlinks]

/-! ## 2. Calls -/

/-- The listing of experiments as a call. -/
theorem listExperiments_eq {config : ServerConfig} {c : Client} (own : IsClientOf config c)
    (q : PageQuery) : c.listExperiments q = .ok
      { request := c.bare "GET"
          (c.base.withTarget [Client.collectionSegment] (Url.someQuery q.encode))
        reply := .page } := by
  rw [Client.listExperiments, collectionUrl_eq own, Client.getPage,
    resolve_text own (by simp) isName_root (Server.isQueryChar_encode q)]
  rfl

/-- Reading an experiment by its name as a call. -/
theorem getExperimentByName_eq {config : ServerConfig} {c : Client} (own : IsClientOf config c)
    {name : String} (wf : ExperimentName.isWellFormed name.toList = true) :
    c.getExperimentByName ⟨name⟩ = .ok
      { request := c.bare "GET"
          (c.base.withTarget [Client.collectionSegment, name.toList] (Url.someQuery []))
        reply := .experiment } := by
  rw [Client.getExperimentByName, experimentUrl_eq own wf, Client.getExperiment,
    resolve_text own (by simp) (isName_experiment wf) fun c hc => by cases hc]
  rfl

/-- **Listing experiments**, for any query, in an orderly store: a client that the server lets in gets
    the page. -/
theorem exchange_list_of_admitted {config : ServerConfig} {c : Client} {token : Option String}
    (root : IsClientOf { token } c)
    (admitted : Server.isAuthorized config (c.fields.map Field.received) = true) (now : Instant)
    (s : Store) (orderly : Server.IsOrderly s) (q : PageQuery) :
    exchange config c.base now s (c.listExperiments q) =
      (.ok { links := Server.pageMeta (s.page config.pageSize q)
             experiments := (s.page config.pageSize q).experiments }, s) := by
  have hroute : Server.Route.ofPath? (pathText [Client.collectionSegment]) = some .collection := by
    decide
  have hmethod : Server.Route.operation? .collection "GET" = some (.ok .listExperiments) := rfl
  have htarget : (c.base.withTarget [Client.collectionSegment] (Url.someQuery q.encode)).target =
      pathText [Client.collectionSegment] ++ Url.markedText '?' (Url.someQuery q.encode) :=
    target_withTarget c.base (by simp) _
  rw [listExperiments_eq root, exchange_of_admitted now s admitted (by simp) isName_root rfl hroute
    hmethod (show "GET" ≠ "HEAD" by decide)]
  show (Reply.page.receive (Server.listExperiments config (Server.queryOf
    (c.base.withTarget [Client.collectionSegment] (Url.someQuery q.encode)).target) s), s) = _
  rw [htarget, queryOf_append isName_root (Server.isQueryChar_encode q),
    receive_listExperiments orderly (Server.readQuery_encode q)]

/-- The listing of trials as a call. -/
theorem listTrials_eq {c : Client} (scheme : c.base.scheme = "http") {name : String}
    (wf : ExperimentName.isWellFormed name.toList = true) :
    c.listTrials (Server.trialsPath name) = .ok
      { request := c.bare "GET" (c.base.withTarget
          [Client.collectionSegment, name.toList, "trials".toList] (Url.someQuery []))
        reply := .trials } := by
  rw [Client.listTrials,
    resolve_path scheme (by simp) (isName_below wf isName_trials) (toList_trialsPath name)]
  rfl

/-- **Listing the trials of a stored experiment**: a client that the server lets in gets what they are
    read as. -/
theorem exchange_trials_of_admitted {config : ServerConfig} {c : Client}
    (scheme : c.base.scheme = "http")
    (admitted : Server.isAuthorized config (c.fields.map Field.received) = true) (now : Instant)
    {s : Store} {name : String} (wf : ExperimentName.isWellFormed name.toList = true)
    {e : StoredExperiment} (stored : s.get? name = some e) {items : List TrialItem}
    (read : List.Forall₂ TrialItem.IsReadAs (e.trials.map Store.StoredTrial.item) items) :
    exchange config c.base now s (c.listTrials (Server.trialsPath name)) =
      (.ok { trials := items }, s) := by
  have hmethod : Server.Route.operation? (.trials name.toList) "GET" =
      some (.ok (.listTrials name)) := Server.operation?_of_name wf rfl
  rw [listTrials_eq scheme wf, exchange_of_admitted now s admitted (by simp)
    (isName_below wf isName_trials) rfl (ofPath?_trials wf) hmethod (show "GET" ≠ "HEAD" by decide)]
  show (Reply.trials.receive (Server.listTrials config name s), s) = _
  rw [Server.listTrials, Store.listTrials, Store.find_of_get? stored]
  simp only [Except.map]
  rw [Reply.receive_trials read]

section Calls

variable {config : ServerConfig} {c : Client} (own : IsClientOf config c)
  (legible : ∀ t ∈ config.token, Client.IsLegible t) (now : Instant) (s : Store)

include own legible

section Named

variable {name : String} (wf : ExperimentName.isWellFormed name.toList = true)

include wf

/-- **Reading an experiment.** -/
theorem exchange_get :
    exchange config c.base now s (c.getExperimentByName ⟨name⟩) =
      told config s Reply.experiment.refused
        (fun e => { e.experiment with links := Server.experimentMeta name e.lastModified })
        ((s.find name).map (·, s)) := by
  have hmethod : Server.Route.operation? (.experiment name.toList) "GET" =
      some (.ok (.getExperiment name)) := Server.operation?_of_name wf rfl
  rw [getExperimentByName_eq own wf, exchange_of_route own legible now s (by simp)
    (isName_experiment wf) rfl ⟨[], by simp [Client.bare]⟩ (ofPath?_experiment wf) hmethod
    (show "GET" ≠ "HEAD" by decide)]
  show (Reply.experiment.receive (Server.getExperiment config name s), s) = _
  cases hf : s.find name with
  | error why =>
    rw [Server.getExperiment, hf]
    simp only
    rw [Reply.receive_refusal (by decide) (by decide)]
    rfl
  | ok e =>
    have hresponse : Server.getExperiment config name s = Response.ofJson 200
        [Field.ofText "link" (Link.joined (Server.experimentLinks name)),
          Field.ofText "last-modified" (Calendar.format e.lastModified)] e.experiment.toJson := by
      rw [Server.getExperiment, hf]
      simp only [Server.experimentFields_eq wf]
      rfl
    rw [hresponse, Reply.receive_experiment wf]
    rfl

/-- **Creating or replacing an experiment**, valid or not. -/
theorem exchange_create {e : Experiment} (short : (Utf8.encode e.toJson).length ≤ Server.maxBody) :
    exchange config c.base now s (.ok (c.createExperiment ⟨name⟩ e)) =
      told config s (Reply.stored e).refused
        (fun stored => { stored.experiment with
                         links := Server.experimentMeta name stored.lastModified })
        (s.put now name e) := by
  have hmethod : Server.Route.operation? (.experiment name.toList) "PUT" =
      some (.ok (.putExperiment name)) := Server.operation?_of_name wf rfl
  have hparse : ExperimentName.parse name = .ok ⟨name⟩ :=
    ExperimentName.parse_eq_ok_iff.mpr ⟨wf, rfl⟩
  have hbody : Server.readBody Experiment.record.decoder (Utf8.encode e.toJson) = .ok e.kept :=
    Server.readBody_encode e.spells (by decide)
  have hperform : Server.perform config now (c.createExperiment ⟨name⟩ e).request.received s
      (.putExperiment name) = Server.after config s (s.put now name e) (storedAnswer name) := by
    rw [Server.perform, Server.perform_of_short short, if_neg Bool.false_ne_true]
    show Server.putExperiment config now name (Utf8.encode e.toJson) s = _
    rw [Server.putExperiment, hparse]
    simp only [hbody]
    rfl
  have haccepted : ∀ n ∈ (Reply.stored e).accepted, n < 400 := by
    show ∀ n ∈ [200, 201], n < 400
    decide
  have hwaits : ∀ entry ∈ (Reply.stored e).refused,
      entry.2 = .trialUnavailable → entry.1 = 503 := by
    show ∀ entry ∈ (Reply.stored {}).refused, entry.2 = .trialUnavailable → entry.1 = 503
    decide
  rw [exchange_of_route own legible now s (by simp) (isName_experiment wf) (experimentUrl_eq own wf)
    ⟨_, rfl⟩ (ofPath?_experiment wf) hmethod (show "PUT" ≠ "HEAD" by decide), hperform]
  have hreply : (c.createExperiment ⟨name⟩ e).reply = Reply.stored e := rfl
  rw [hreply, receive_after haccepted hwaits fun stored _ _ => receive_storedAnswer wf stored e]

/-- **Deleting an experiment** under the link that the server hands out for it. -/
theorem exchange_delete :
    exchange config c.base now s (c.deleteExperiment (Store.experimentPath name)) =
      told config s Reply.deleted.refused (fun () => ()) ((s.delete name).map ((), ·)) := by
  have hcall : c.deleteExperiment (Store.experimentPath name) = .ok
      { request := c.bare "DELETE"
          (c.base.withTarget [Client.collectionSegment, name.toList] (Url.someQuery []))
        reply := .deleted } := by
    rw [Client.deleteExperiment,
      resolve_path own.scheme (by simp) (isName_experiment wf) (toList_experimentPath name)]
    rfl
  have hmethod : Server.Route.operation? (.experiment name.toList) "DELETE" =
      some (.ok (.deleteExperiment name)) := Server.operation?_of_name wf rfl
  rw [hcall, exchange_of_route own legible now s (by simp) (isName_experiment wf) rfl
    ⟨[], by simp [Client.bare]⟩ (ofPath?_experiment wf) hmethod (show "DELETE" ≠ "HEAD" by decide)]
  show (Reply.deleted.receive (Server.deleteExperiment config name s).1,
    (Server.deleteExperiment config name s).2) = _
  exact receive_after (by decide) (by decide) fun _ _ _ => rfl

/-- **Listing trials**, as long as none has observed values. -/
theorem exchange_trials
    (plain : ∀ e, s.get? name = some e → ∀ t ∈ e.trials, t.values = []) :
    exchange config c.base now s (c.listTrials (Server.trialsPath name)) =
      told config s Reply.trials.refused (fun items => { trials := items })
        ((s.listTrials name).map (·, s)) := by
  have hmethod : Server.Route.operation? (.trials name.toList) "GET" =
      some (.ok (.listTrials name)) := Server.operation?_of_name wf rfl
  cases hg : s.get? name with
  | none =>
    rw [listTrials_eq own.scheme wf, exchange_of_route own legible now s (by simp)
      (isName_below wf isName_trials) rfl ⟨[], by simp [Client.bare]⟩ (ofPath?_trials wf) hmethod
      (show "GET" ≠ "HEAD" by decide)]
    show (Reply.trials.receive (Server.listTrials config name s), s) = _
    rw [Server.listTrials, Store.listTrials, Store.find_of_get?_eq_none hg]
    simp only [Except.map]
    rw [Reply.receive_refusal (by decide) (by decide)]
    rfl
  | some e =>
    have hitems : ∀ t ∈ e.trials.map Store.StoredTrial.item, t.IsPlain := by
      intro item hi
      obtain ⟨t, ht, rfl⟩ := List.mem_map.mp hi
      exact ⟨rfl, plain e hg t ht, rfl⟩
    rw [exchange_trials_of_admitted own.scheme (isAuthorized_own own legible) now wf hg
      (List.forall₂_same.mpr fun t ht => (hitems t ht).isReadAs), Store.listTrials,
      Store.find_of_get? hg]
    rfl

/-- **Proposing a trial.** -/
theorem exchange_propose {trial : TrialAssignments}
    (short : (Utf8.encode trial.toJson).length ≤ Server.maxBody) :
    exchange config c.base now s (c.createTrial (Server.trialsPath name) trial) =
      told config s Reply.createdTrial.refused (Server.trialPath name)
        (s.createTrial name trial.assignments) := by
  have hcall : c.createTrial (Server.trialsPath name) trial = .ok
      { request := c.withJson "POST" (c.base.withTarget
          [Client.collectionSegment, name.toList, "trials".toList] (Url.someQuery [])) trial.toJson
        reply := .createdTrial } := by
    rw [Client.createTrial,
      resolve_path own.scheme (by simp) (isName_below wf isName_trials) (toList_trialsPath name)]
    rfl
  have hmethod : Server.Route.operation? (.trials name.toList) "POST" =
      some (.ok (.createTrial name)) := Server.operation?_of_name wf rfl
  have hbody : Server.readBody TrialAssignments.record.decoder (Utf8.encode trial.toJson) =
      .ok { assignments := trial.assignments } := Server.readBody_encode trial.spells (by decide)
  rw [hcall, exchange_of_route own legible now s (by simp) (isName_below wf isName_trials) rfl
    ⟨_, rfl⟩ (ofPath?_trials wf) hmethod (show "POST" ≠ "HEAD" by decide)]
  rw [Server.perform, Server.perform_of_short short, if_neg Bool.false_ne_true]
  show (Reply.createdTrial.receive (Server.createTrial config name (Utf8.encode trial.toJson) s).1,
    (Server.createTrial config name (Utf8.encode trial.toJson) s).2) = _
  have hcreate : Server.createTrial config name (Utf8.encode trial.toJson) s =
      Server.after config s (s.createTrial name trial.assignments) (createdAnswer name) := by
    rw [Server.createTrial, hbody]
    rfl
  rw [hcreate]
  exact receive_after (by decide) (by decide) fun id _ _ => receive_createdAnswer wf id

/-- **Asking for a trial.** -/
theorem exchange_dispense :
    exchange config c.base now s (c.nextTrial (Server.nextTrialPath name)) =
      told config s Reply.dispensed.refused
        (fun trial => { links := { report := some (Server.trialPath name trial.1) }
                        assignments := trial.2 })
        (s.dispense name) := by
  have hcall : c.nextTrial (Server.nextTrialPath name) = .ok
      { request := c.bare "POST" (c.base.withTarget
          [Client.collectionSegment, name.toList, "nextTrial".toList] (Url.someQuery []))
        reply := .dispensed } := by
    rw [Client.nextTrial,
      resolve_path own.scheme (by simp) (isName_below wf isName_nextTrial) (toList_nextTrialPath name)]
    rfl
  have hmethod : Server.Route.operation? (.dispenser name.toList) "POST" =
      some (.ok (.dispenseTrial name)) := Server.operation?_of_name wf rfl
  rw [hcall, exchange_of_route own legible now s (by simp) (isName_below wf isName_nextTrial) rfl
    ⟨[], by simp [Client.bare]⟩ (ofPath?_nextTrial wf) hmethod (show "POST" ≠ "HEAD" by decide)]
  show (Reply.dispensed.receive (Server.after config s (s.dispense name) (dispensedAnswer name)).1,
    (Server.after config s (s.dispense name) (dispensedAnswer name)).2) = _
  exact receive_after (by decide) (by decide) fun trial _ _ => receive_dispensedAnswer wf trial

end Named

/-- **Listing experiments** with a legible token. -/
theorem exchange_list (orderly : Server.IsOrderly s) (q : PageQuery) :
    exchange config c.base now s (c.listExperiments q) =
      (.ok { links := Server.pageMeta (s.page config.pageSize q)
             experiments := (s.page config.pageSize q).experiments }, s) := by
  have root : IsClientOf { token := config.token } c :=
    ⟨own.setup, own.scheme, own.authority, own.path⟩
  exact exchange_list_of_admitted root (isAuthorized_own own legible) now s orderly q

end Calls

/-! ## 3. All calls -/

/-- **A faithful proxy**: through requests, every call does what the store does, with a well-formed
    name or with a link that the server hands out for it, and with a body that the server reads. -/
structure IsFaithful (config : ServerConfig) (c : Client) (now : Instant) (s : Store) : Prop where
  create : ∀ name e, ExperimentName.isWellFormed name.toList = true →
    (Utf8.encode e.toJson).length ≤ Server.maxBody →
    exchange config c.base now s (.ok (c.createExperiment ⟨name⟩ e)) =
      told config s (Reply.stored e).refused
        (fun stored => { stored.experiment with
                         links := Server.experimentMeta name stored.lastModified })
        (s.put now name e)
  get : ∀ name, ExperimentName.isWellFormed name.toList = true →
    exchange config c.base now s (c.getExperimentByName ⟨name⟩) =
      told config s Reply.experiment.refused
        (fun e => { e.experiment with links := Server.experimentMeta name e.lastModified })
        ((s.find name).map (·, s))
  list : ∀ q, exchange config c.base now s (c.listExperiments q) =
    (.ok { links := Server.pageMeta (s.page config.pageSize q)
           experiments := (s.page config.pageSize q).experiments }, s)
  /-- The entries of a page are addressed by the links of experiments with well-formed names. -/
  listed : ∀ q, ∀ i ∈ (s.page config.pageSize q).experiments, ∃ name time,
    ExperimentName.isWellFormed name.toList = true ∧
      i.itemRef = (Server.experimentMeta name time).self
  delete : ∀ name time link, ExperimentName.isWellFormed name.toList = true →
    (Server.experimentMeta name time).self = some link →
    exchange config c.base now s (c.deleteExperiment link) =
      told config s Reply.deleted.refused (fun () => ()) ((s.delete name).map ((), ·))
  trials : ∀ name time link, ExperimentName.isWellFormed name.toList = true →
    (Server.experimentMeta name time).trials = some link →
    (∀ e, s.get? name = some e → ∀ t ∈ e.trials, t.values = []) →
    exchange config c.base now s (c.listTrials link) =
      told config s Reply.trials.refused (fun items => { trials := items })
        ((s.listTrials name).map (·, s))
  propose : ∀ name time link trial, ExperimentName.isWellFormed name.toList = true →
    (Server.experimentMeta name time).trials = some link →
    (Utf8.encode trial.toJson).length ≤ Server.maxBody →
    exchange config c.base now s (c.createTrial link trial) =
      told config s Reply.createdTrial.refused (Server.trialPath name)
        (s.createTrial name trial.assignments)
  dispense : ∀ name time link, ExperimentName.isWellFormed name.toList = true →
    (Server.experimentMeta name time).nextTrial = some link →
    exchange config c.base now s (c.nextTrial link) =
      told config s Reply.dispensed.refused
        (fun trial => { links := { report := some (Server.trialPath name trial.1) }
                        assignments := trial.2 })
        (s.dispense name)

/-- A client with a legible token is a faithful proxy in every orderly store. -/
theorem isFaithful_of_legible {config : ServerConfig} {c : Client} (own : IsClientOf config c)
    (legible : ∀ t ∈ config.token, Client.IsLegible t) {s : Store} (orderly : Server.IsOrderly s)
    (now : Instant) : IsFaithful config c now s where
  create _ _ wf short := exchange_create own legible now s wf short
  get _ wf := exchange_get own legible now s wf
  list q := exchange_list own legible now s orderly q
  listed q i hi := by
    obtain ⟨name, e, he, rfl⟩ := exists_of_mem_page hi
    exact ⟨name, e.lastModified, orderly.isWellFormed name e he, rfl⟩
  delete _ _ _ wf hlink := by
    cases hlink
    exact exchange_delete own legible now s wf
  trials _ _ _ wf hlink plain := by
    cases hlink
    exact exchange_trials own legible now s wf plain
  propose _ _ _ _ wf hlink short := by
    cases hlink
    exact exchange_propose own legible now s wf short
  dispense _ _ _ wf hlink := by
    cases hlink
    exact exchange_dispense own legible now s wf

/-- **Only a client with a legible token gets an answer to anything.** -/
theorem isLegible_of_answered {config : ServerConfig} {c : Client} (own : IsClientOf config c)
    {now : Instant} {s s' : Store} {α : Type} {call : Call α} {x : α}
    (reached : reaches c.base call.request)
    (fields : ∃ more, call.request.fields = c.fields ++ more)
    (notHead : call.request.method ≠ "HEAD") (accepted : 401 ∉ call.reply.accepted)
    (unnamed : call.reply.refused.lookup 401 = none)
    (h : exchange config c.base now s (.ok call) = (.ok x, s')) :
    ∀ t ∈ config.token, Client.IsLegible t := by
  obtain ⟨others, hothers⟩ := exists_fields own
  obtain ⟨more, hmore⟩ := fields
  by_cases ha : Server.isAuthorized config
      ((Client.tokenFields config.token ++ (others ++ more)).map Field.received) = true
  · exact Server.isLegible_of_isAuthorized ha
  · have closed : Server.isAuthorized config call.request.received.fields = false := by
      show Server.isAuthorized config (call.request.fields.map Field.received) = false
      rw [hmore, hothers, List.append_assoc]
      simpa using ha
    rw [exchange_of_unauthorized reached closed notHead accepted unnamed] at h
    cases h

/-- A client that lists the experiments has a legible token. -/
theorem isLegible_of_list {config : ServerConfig} {c : Client} (own : IsClientOf config c)
    {now : Instant} {s : Store} {q : PageQuery} {list : ExperimentList}
    (h : exchange config c.base now s (c.listExperiments q) = (.ok list, s)) :
    ∀ t ∈ config.token, Client.IsLegible t := by
  rw [listExperiments_eq own q] at h
  have accepted : 401 ∉ Reply.page.accepted := by decide
  exact isLegible_of_answered own ⟨rfl, rfl⟩ ⟨[], by simp [Client.bare]⟩
    (show "GET" ≠ "HEAD" by decide) accepted rfl h

/-- **A client is a faithful proxy of the store exactly if the server's token is legible**, in every
    store that the server comes to. -/
theorem isFaithful_iff {config : ServerConfig} {c : Client} {s : Store} (own : IsClientOf config c)
    (reachable : Server.Reachable config s) (now : Instant) :
    IsFaithful config c now s ↔ ∀ t ∈ config.token, Client.IsLegible t := by
  constructor
  · intro faithful
    exact isLegible_of_list own (faithful.list {})
  · intro legible
    exact isFaithful_of_legible own legible reachable.isOrderly now

/-! ## 4. A client of a server -/

/-- The root of a server on this machine. -/
def sampleBase : Url where
  scheme := "http"
  authority := some { host := .named "localhost".toList, port := some 8000 }
  path := .segments [[]]

/-- A client of that server, with a token. -/
def sampleClient (token : String) : Client where
  base := sampleBase
  fields := Client.tokenFields (some token) ++
    [Field.ofText "user-agent" "redsky-client/0.1.0".toList]
  isFlat_base := rfl

theorem isClientOf_sample {token : String}
    (sendable : Http.isSendable (Utf8.encode (Client.credentials token)) = true) :
    IsClientOf { token := some token } (sampleClient token) where
  setup := by
    have htoken : Client.field .badToken "authorization" (Client.credentials token) =
        .ok (Field.ofText "authorization" (Client.credentials token)) :=
      Client.field_eq sendable
    have hagent : Client.field .badUserAgent "user-agent" "redsky-client/0.1.0".toList =
        .ok (Field.ofText "user-agent" "redsky-client/0.1.0".toList) := Client.field_eq (by decide)
    have hbase : Url.parse "http://localhost:8000".toList = .ok sampleBase := by decide +kernel
    refine ⟨{ token := some token }, ?_, rfl⟩
    rw [Client.ofConfig]
    simp only [Option.toList_some, List.mapM_cons, List.mapM_nil, htoken, hagent, Client.atAddress,
      hbase, bind, Except.bind, pure, Except.pure]
    rfl
  scheme := rfl
  authority := ⟨_, rfl, rfl, rfl⟩
  path := rfl

/-- A store with one experiment in it, put there by a request. -/
def sampleStore : Store :=
  (Server.respond { token := some "secret" } ⟨0, false⟩
    { method := "PUT"
      target := "/experiments/sample".toList
      fields := [Field.ofText "authorization" "Bearer secret".toList]
      body := Utf8.encode Experiment.sample.toJson } .empty).2

/-- The experiment in that store is read as it is kept. -/
theorem isFaithful_sample : ∃ e, sampleStore.get? "sample" = some e ∧
    IsClientOf { token := some "secret" } (sampleClient "secret") ∧
    Server.Reachable { token := some "secret" } sampleStore ∧
    IsFaithful { token := some "secret" } (sampleClient "secret") ⟨60, false⟩ sampleStore ∧
    exchange { token := some "secret" } sampleBase ⟨60, false⟩ sampleStore
      ((sampleClient "secret").getExperimentByName ⟨"sample"⟩) =
        (.ok { e.experiment with links := Server.experimentMeta "sample" e.lastModified },
          sampleStore) := by
  have own : IsClientOf { token := some "secret" } (sampleClient "secret") :=
    isClientOf_sample (by decide)
  have reachable : Server.Reachable { token := some "secret" } sampleStore := .step .start _ _
  have legible : ∀ t ∈ some "secret", Client.IsLegible t := by
    intro t ht
    cases ht
    exact ⟨Text.of_all (by decide), 't', by decide, by decide, by decide⟩
  have faithful := (isFaithful_iff own reachable ⟨60, false⟩).mpr legible
  have stored : (sampleStore.get? "sample").isSome = true := by decide +kernel
  obtain ⟨e, he⟩ := Option.isSome_iff_exists.mp stored
  have read := faithful.get "sample" (by decide)
  rw [Store.find_of_get? he] at read
  exact ⟨e, he, own, reachable, faithful, read⟩

/-- A token that a client may send and that no server can read. -/
theorem not_isFaithful_of_accent : ¬∀ config c s, IsClientOf config c → Server.Reachable config s →
    ∀ now, IsFaithful config c now s := by
  intro all
  have own : IsClientOf { token := some "é" } (sampleClient "é") := isClientOf_sample (by decide)
  have faithful := all _ _ _ own .start ⟨0, false⟩
  have legible := isLegible_of_list own (faithful.list {}) "é" rfl
  have hmem : 'é' ∈ "é".toList := by decide
  exact absurd (legible.1 'é' hmem) (by decide)

end TrialProtocol.Proxy
