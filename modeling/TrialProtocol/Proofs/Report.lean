import TrialProtocol.Proofs.Resource
import TrialProtocol.Proofs.Trial.Outcome

/-!
# Reported values arrive

A client reports the outcome of a trial under the trial's link, and whoever lists the trials gets the
values back. Each way a value goes as its shortest decimal, and arrives as what a reader makes of that:
the value itself, if it is written briefly, and in any case a double nearby.

* `taken_of_reported`: what the store has done if a report is answered with success.
* `isDelivered`: what it holds then, and what it shows.
-/

namespace TrialProtocol

open Http (Field Request)

/-! ## 1. Requests -/

/-- What a request to a resource asks for. -/
theorem Resource.asked?_of_target {r : Resource} (wf : ExperimentName.isWellFormed r.name.toList = true)
    {base : Url} {request : Request} {op : Server.Operation}
    (target : request.target = (base.withTarget r.segments (Url.someQuery [])).target)
    (operation : r.operation? (Server.effectiveMethod request.method) = some op) :
    Server.asked? request = some op := by
  have path : Server.pathOf request.target = Proxy.pathText r.segments := by
    rw [target, Proxy.target_withTarget _ r.segments_ne_nil,
      Proxy.pathOf_append (Resource.isName_segments wf)]
  rw [Server.asked?, path, Resource.ofPath?_segments wf, Option.bind_some,
    Resource.operation?_route wf, operation]
  rfl

/-- What a client sends does not matter for whether it is let in. -/
theorem Client.isAuthorized_withJson (config : ServerConfig) (c : Client) (method : String)
    (url : Url) (document : List Char) :
    Server.isAuthorized config (c.withJson method url document).received.fields =
      Server.isAuthorized config (c.fields.map Field.received) := by
  have same : Http.valueOf? (c.withJson method url document).received.fields "authorization" =
      Http.valueOf? (c.fields.map Field.received) "authorization" := by
    show Http.valueOf? ((c.fields ++ [Http.contentType Http.jsonType]).map Field.received) _ = _
    have other : (Http.contentType Http.jsonType).received.isNamed "authorization" = false := by
      decide
    rw [List.map_append, Http.valueOf?, Http.valuesOf, List.filter_append, List.map_singleton,
      List.filter_singleton, other]
    simp [Http.valueOf?, Http.valuesOf]
  rw [Server.isAuthorized, Server.isAuthorized, same]

namespace Proxy

/-! ## 2. A report that is taken -/

/-- The request of a report. -/
def reportRequest (c : Client) (name : String) (id : Nat) (outcome : TrialValues) : Outgoing :=
  c.withJson "POST" (c.base.withTarget (Resource.trial name id).segments (Url.someQuery []))
    (Client.sentOutcome outcome).toJson

/-- A report as a call. -/
theorem reportTrial_eq {c : Client} (scheme : c.base.scheme = "http") {name : String}
    (wf : ExperimentName.isWellFormed name.toList = true) (id : Nat) (outcome : TrialValues) :
    c.reportTrial (Server.trialPath name id) outcome =
      .ok { request := reportRequest c name id outcome, reply := .reported } := by
  have path : (Server.trialPath name id).toList = pathText (Resource.trial name id).segments :=
    Resource.toList_link (.trial name id)
  rw [Client.reportTrial, resolve_path scheme (Resource.segments_ne_nil _)
    (Resource.isName_segments (r := .trial name id) wf) path]
  rfl

section Reports

variable {config : ServerConfig} {c : Client} {now : Instant} {s s' : Store} {name : String}
  {id : Nat} {outcome : TrialValues} (scheme : c.base.scheme = "http")
  (orderly : Server.IsOrderly s) (wf : ExperimentName.isWellFormed name.toList = true)
  (succeeded : outcome.failed = false)
  (reported : exchange config c.base now s (c.reportTrial (Server.trialPath name id) outcome) =
    (.ok (), s'))

include scheme orderly wf succeeded reported

/-- **A report that is answered with success** was let in, and the store has taken what its values are
    read as. -/
theorem taken_of_reported {values : List Observation} (read : AreReadAs outcome.values values) :
    Server.isAuthorized config (c.fields.map Field.received) = true ∧
      s.report name (Store.idText id) { values } = .ok s' := by
  rw [reportTrial_eq scheme wf] at reported
  obtain ⟨received, store⟩ := receive_of_exchange reported
  -- the client takes one status for a success, and no refusal has it
  have status := Reply.status_of_receive received
  have lt : (Server.respond config now (reportRequest c name id outcome).received s).1.status < 400 := by
    rw [List.mem_singleton.mp status]
    decide
  have asked : Server.asked? (reportRequest c name id outcome).received =
      some (.reportTrial name (Store.idText id)) :=
    Resource.asked?_of_target (r := .trial name id) wf rfl rfl
  have sent : (reportRequest c name id outcome).received.body =
      Utf8.encode (TrialValues.toJson { values := outcome.values, failed := false }) := by
    show Utf8.encode (Client.sentOutcome outcome).toJson = _
    rw [Client.sentOutcome, succeeded, if_neg Bool.false_ne_true, ← succeeded]
  obtain ⟨authorized, op, response, asked', success, -⟩ := Server.exists_success orderly lt
  rw [asked] at asked'
  cases asked'
  rw [store] at success
  cases success with
  | @reported _ _ taken _ body done =>
    have same : Server.readBody TrialValues.record.decoder _ = .ok { values, failed := false } :=
      Server.readBody_encode (TrialValues.spells read false) (by decide)
    rw [sent, same] at body
    cases body
    rw [reportRequest, Client.isAuthorized_withJson] at authorized
    exact ⟨authorized, done⟩

end Reports

/-- A call over the wire leads to a store that the server comes to. -/
theorem reachable_exchange {α : Type} {config : ServerConfig} (base : Url) {s : Store}
    (h : Server.Reachable config s) (now : Instant) (call : Except ClientError (Call α)) :
    Server.Reachable config (exchange config base now s call).2 := by
  unfold exchange
  split
  · split
    · exact h.step now _
    · exact h
  · exact h

end Proxy

/-! ## 3. What is stored is finite -/

/-- **Only finite values are stored**: they have been read. -/
theorem Server.Reachable.isFinite {config : ServerConfig} {s : Store} (h : Reachable config s)
    {name : String} {e : StoredExperiment} (stored : s.get? name = some e) :
    ∀ t ∈ e.trials, ∀ v ∈ t.values, v.All (·.isFinite = true) := by
  intro t ht
  rcases h.exists_read stored t ht with none | ⟨body, outcome, read, same⟩
  · rw [none]
    exact fun v hv => by cases hv
  · rw [same]
    unfold readBody at read
    split at read
    · rename_i x whole
      cases read
      exact TrialValues.readsOnly.readAll whole
    · cases read

/-- So a listing of what is stored can be read. -/
theorem Server.Reachable.exists_items {config : ServerConfig} {s : Store} (h : Reachable config s)
    {name : String} {e : StoredExperiment} (stored : s.get? name = some e) :
    ∃ items, List.Forall₂ TrialItem.IsReadAs (e.trials.map Store.StoredTrial.item) items := by
  refine exists_forall₂ fun item hi => ?_
  obtain ⟨t, ht, rfl⟩ := List.mem_map.mp hi
  obtain ⟨values, read⟩ := exists_areReadAs (h.isFinite stored t ht)
  exact ⟨{ Store.StoredTrial.item t with values }, rfl, rfl, read, rfl⟩

namespace Proxy

/-! ## 4. From the report to the listing -/

/-- **A report that was delivered**: the values that were sent, those that the trial holds from then
    on, and those that a listing shows of it. -/
structure IsDelivered (config : ServerConfig) (c : Client) (s s' : Store) (name : String)
    (e : StoredExperiment) (i : Nat) (t : StoredTrial) (sent held shown : List Observation) :
    Prop where
  /-- The values arrive, in order. -/
  arrive : List.Forall₂ Observation.Arrives sent held
  /-- The trial is completed with what arrived, and nothing else has changed. -/
  store : s' = s.insert name (e.settle i t { values := held })
  /-- What a listing shows is what arrives of that. -/
  listed : List.Forall₂ Observation.Arrives held shown
  /-- Whoever reported may list the trials too, whenever that is. -/
  trials : ∃ items, (∀ later,
      exchange config c.base later s' (c.listTrials (Server.trialsPath name)) =
        (.ok { trials := items }, s')) ∧
    items.length = e.trials.length ∧
    ∃ item, items[i]? = some item ∧ item.status = .completed ∧ item.values = shown
  /-- Where all doubles are written briefly, all of these are the same values. -/
  same : (∀ v ∈ sent, v.All Double.IsBrief) → held = sent ∧ shown = sent

/-- What stands at a place of a list is related to what stands there in the other. -/
theorem exists_getElem?_of_forall₂ {α β : Type} {R : α → β → Prop} {l : List α} {l' : List β}
    (h : List.Forall₂ R l l') {i : Nat} {a : α} (ha : l[i]? = some a) :
    ∃ b, l'[i]? = some b ∧ R a b := by
  induction h generalizing i with
  | nil => cases ha
  | cons first _ ih =>
    cases i with
    | zero =>
      cases ha
      exact ⟨_, rfl, first⟩
    | succ i => exact ih ha

/-- **Every report that is answered with success is delivered**, from whatever client it comes, in
    every state that a server comes to. -/
theorem isDelivered {config : ServerConfig} {c : Client} (scheme : c.base.scheme = "http")
    {s s' : Store} (reachable : Server.Reachable config s) {name : String} {e : StoredExperiment}
    (stored : s.get? name = some e) {i : Nat} {t : StoredTrial} (there : e.trials[i]? = some t)
    {outcome : TrialValues} (succeeded : outcome.failed = false)
    (finite : outcome.All (·.isFinite = true)) {now : Instant}
    (reported : exchange config c.base now s
      (c.reportTrial (Server.trialPath name (i + 1)) outcome) = (.ok (), s')) :
    ∃ held shown, IsDelivered config c s s' name e i t outcome.values held shown := by
  have orderly := reachable.isOrderly
  have wf := orderly.isWellFormed name e stored
  obtain ⟨held, read⟩ := exists_areReadAs finite
  obtain ⟨authorized, done⟩ := taken_of_reported scheme orderly wf succeeded reported read
  have store : s' = s.insert name (e.settle i t { values := held }) := by
    rcases Store.report_of_get? stored (Store.idText (i + 1)) { values := held } with
      ⟨why, refused⟩ | ⟨j, u, active, -, taken⟩
    · rw [refused] at done
      cases done
    · -- the id in the link is read as the number of this trial, or not at all
      obtain ⟨place, here, -⟩ := Store.activeTrial?_eq_some.mp active
      obtain rfl : i = j := Nat.succ.inj (Store.eq_of_trialIndex?_idText place)
      obtain rfl : t = u := Option.some.inj (there.symm.trans here)
      exact Except.ok.inj (done.symm.trans taken)
  have stored' : s'.get? name = some (e.settle i t { values := held }) := by
    rw [store, NameMap.get?_insert, if_pos rfl]
  have reachable' : Server.Reachable config s' := by
    have after := reachable_exchange c.base reachable now
      (c.reportTrial (Server.trialPath name (i + 1)) outcome)
    rwa [reported] at after
  -- the other trials are listed too, and can be, since nothing infinite is ever stored
  obtain ⟨items, listing⟩ := reachable'.exists_items stored'
  have settled : ((e.settle i t { values := held }).trials.map Store.StoredTrial.item)[i]? =
      some (Store.StoredTrial.item (t.settled { values := held })) := by
    rw [List.getElem?_map, e.getElem?_settle there, if_pos rfl]
    rfl
  obtain ⟨item, place, shows⟩ := exists_getElem?_of_forall₂ listing settled
  have back : AreReadAs held item.values := shows.values
  refine ⟨held, item.values, read.arrive, store, back.arrive, ⟨items, ?_, ?_, item, place, ?_, rfl⟩, ?_⟩
  · exact fun later => exchange_trials_of_admitted scheme authorized later wf stored' listing
  · rw [← listing.length_eq, List.length_map, e.length_settle]
  · rw [shows.rest]
    rfl
  · intro brief
    have kept := eq_of_arrive read.arrive brief
    rw [kept] at back
    exact ⟨kept, eq_of_arrive back.arrive brief⟩

/-! ## 5. A report of one double -/

/-- A store with one trial in it that runs. -/
def sampleTrial : Store :=
  (Server.respond { token := some "secret" } ⟨60, false⟩
    { method := "POST"
      target := "/experiments/sample/nextTrial".toList
      fields := [Field.ofText "authorization" "Bearer secret".toList] } sampleStore).2

/-- An outcome with one double. -/
def sampleOutcome (x : Double) : TrialValues :=
  { values := [{ metricName := "cost", value := x }] }

theorem all_sampleOutcome {p : Double → Prop} {x : Double} (h : p x) : (sampleOutcome x).All p :=
  List.forall_mem_singleton.mpr ⟨h, fun y hy => by cases hy⟩

/-- What comes of a report of it. -/
def sampleReport (x : Double) : Except ClientError Unit × Store :=
  exchange { token := some "secret" } sampleBase ⟨90, false⟩ sampleTrial
    ((sampleClient "secret").reportTrial (Server.trialPath "sample" 1) (sampleOutcome x))

theorem reachable_sampleTrial : Server.Reachable { token := some "secret" } sampleTrial :=
  .step (.step .start _ _) _ _

theorem exists_sampleTrial : ∃ e t, sampleTrial.get? "sample" = some e ∧ e.trials[0]? = some t ∧
    t.status = .active ∧ e.experiment.metrics = [{ name := "cost" }] := by
  have known : (sampleTrial.get? "sample").map
      (fun e => (e.trials.map (·.status), e.experiment.metrics)) =
        some ([.active], [{ name := "cost" }]) := by decide +kernel
  obtain ⟨e, stored, same⟩ := Option.map_eq_some_iff.mp known
  obtain ⟨statuses, metrics⟩ := Prod.mk.inj same
  obtain ⟨t, trials, active⟩ := List.map_eq_singleton_iff.mp statuses
  exact ⟨e, t, stored, by rw [trials]; rfl, active, metrics⟩

theorem sampleReport_eq {x : Double} (h : (sampleReport x).1.isOk = true) :
    sampleReport x = (.ok (), (sampleReport x).2) := by
  generalize sampleReport x = result at h
  obtain ⟨answer, s⟩ := result
  cases answer with
  | ok _ => rfl
  | error _ => cases h

/-- One and a half is written briefly. It is delivered, and the same everywhere. -/
theorem isDelivered_sample : ∃ x e t s' held shown, x.IsBrief ∧
    Server.Reachable { token := some "secret" } sampleTrial ∧
    sampleTrial.get? "sample" = some e ∧ e.trials[0]? = some t ∧
    (sampleOutcome x).All (·.isFinite = true) ∧ sampleReport x = (.ok (), s') ∧
    IsDelivered { token := some "secret" } (sampleClient "secret") sampleTrial s' "sample" e 0 t
      (sampleOutcome x).values held shown ∧
    held = (sampleOutcome x).values ∧ shown = (sampleOutcome x).values := by
  obtain ⟨e, t, stored, there, -⟩ := exists_sampleTrial
  have brief : Double.IsBrief ⟨0x3ff8000000000000⟩ := by decide +kernel
  have finite : (sampleOutcome ⟨0x3ff8000000000000⟩).All (·.isFinite = true) :=
    all_sampleOutcome (by decide)
  have reported := sampleReport_eq (x := ⟨0x3ff8000000000000⟩) (by decide +kernel)
  obtain ⟨held, shown, delivered⟩ := isDelivered (c := sampleClient "secret") rfl
    reachable_sampleTrial stored there rfl finite reported
  obtain ⟨hheld, hshown⟩ := delivered.same (all_sampleOutcome brief)
  exact ⟨_, e, t, _, held, shown, brief, reachable_sampleTrial, stored, there, finite, reported,
    delivered, hheld, hshown⟩

/-- **Not every double arrives unchanged.** The whole number 2⁵³ - 1 has sixteen digits and is written
    with one zero behind the point; all digits together are too many for 53 bits. -/
theorem not_delivered_unchanged : ¬∀ config (c : Client) now (s s' : Store) name
    (e : StoredExperiment) (i : Nat) (t : StoredTrial) (outcome : TrialValues),
    IsClientOf config c → Server.Reachable config s → s.get? name = some e →
    e.trials[i]? = some t → t.status = .active → outcome.failed = false →
    (∀ v ∈ outcome.values, (e.experiment.metric? v.metricName).isSome = true) →
    outcome.All (·.isFinite = true) →
    exchange config c.base now s (c.reportTrial (Server.trialPath name (i + 1)) outcome) =
      (.ok (), s') →
    ∃ e' t', s'.get? name = some e' ∧ e'.trials[i]? = some t' ∧ t'.values = outcome.values := by
  intro all
  obtain ⟨e, t, stored, there, active, metrics⟩ := exists_sampleTrial
  have metric : ∀ v ∈ (sampleOutcome ⟨0x433fffffffffffff⟩).values,
      (e.experiment.metric? v.metricName).isSome = true := by
    refine List.forall_mem_singleton.mpr ?_
    rw [Experiment.metric?, metrics]
    decide
  have finite : (sampleOutcome ⟨0x433fffffffffffff⟩).All (·.isFinite = true) :=
    all_sampleOutcome (by decide)
  have reported := sampleReport_eq (x := ⟨0x433fffffffffffff⟩) (by decide +kernel)
  obtain ⟨e', t', stored', there', same⟩ := all _ (sampleClient "secret") _ _ _ _ _ _ _ _
    (isClientOf_sample (by decide)) reachable_sampleTrial stored there active rfl metric finite reported
  have held : ((sampleReport ⟨0x433fffffffffffff⟩).2.get? "sample").map
      (·.trials.map (·.values)) = some [[{ metricName := "cost", value := ⟨0x433ffffffffffffe⟩ }]] := by
    decide +kernel
  rw [stored', Option.map_some, Option.some_inj] at held
  obtain ⟨u, trials, values⟩ := List.map_eq_singleton_iff.mp held
  rw [trials] at there'
  cases there'
  rw [same] at values
  exact absurd values (by decide)

end Proxy

end TrialProtocol
