import TrialProtocol.Proofs.Proxy

/-!
# Reading, changing and writing back

A client changes an experiment by reading it, changing what it likes, and putting it back under the
same name. The server compares the parameters digit by digit with what it stores, so this works only
because what comes back over the wire is what went out, digit by digit: not a bound of them is
rounded, reordered or written another way.

* `exchange_update`: with the parameters as they were, the new experiment replaces the old one.
* `exchange_conflict`: with any others, nothing happens.
* `IsRevisable`: both, for whatever a client may put back.
-/

namespace TrialProtocol.Proxy

open Http (Field Request Response)

/-! ## 1. What the store makes of it -/

section Present

variable {s : Store} {name : String} {e : StoredExperiment} (stored : s.get? name = some e)

include stored

/-- The parameters as they were: the experiment is replaced, the trials stay. -/
theorem put_of_same {y : Experiment} (now : Instant) (valid : y.validate = .ok ())
    (same : y.parameters = e.experiment.parameters) : s.put now name y =
      .ok (⟨false, y.kept, now⟩,
        s.insert name { e with experiment := y.kept, lastModified := now }) := by
  rw [Store.put, valid, stored]
  exact if_pos same.symm

/-- Other parameters are refused. -/
theorem put_of_different {y : Experiment} (now : Instant) (valid : y.validate = .ok ())
    (different : y.parameters ≠ e.experiment.parameters) :
    s.put now name y = .error (.differentParameters name) := by
  rw [Store.put, valid, stored]
  exact if_neg fun same => different same.symm

/-- An experiment with other parameters never gets in, valid or not. -/
theorem exists_error_of_different {y : Experiment} (now : Instant)
    (different : y.parameters ≠ e.experiment.parameters) :
    ∃ why, s.put now name y = .error why := by
  rcases Store.put_of_get? stored now y with refused | ⟨-, same, -⟩
  · exact refused
  · exact absurd same.symm different

end Present

/-! ## 2. What the client sees of it -/

section Calls

variable {config : ServerConfig} {c : Client} (own : IsClientOf config c)
  (legible : ∀ t ∈ config.token, Client.IsLegible t) {s : Store} {name : String}
  {e : StoredExperiment} (wf : ExperimentName.isWellFormed name.toList = true)
  (stored : s.get? name = some e)

include own legible wf stored

/-- **With the parameters as they were, the new experiment replaces the old one.** -/
theorem exchange_update {y : Experiment} (now : Instant) (valid : y.validate = .ok ())
    (same : y.parameters = e.experiment.parameters)
    (short : (Utf8.encode y.toJson).length ≤ Server.maxBody) :
    exchange config c.base now s (.ok (c.createExperiment ⟨name⟩ y)) =
      (.ok { y with links := Server.experimentMeta name now },
        s.insert name { e with experiment := y.kept, lastModified := now }) := by
  rw [exchange_create own legible now s wf short, put_of_same stored now valid same]
  rfl

/-- **With other parameters it is a conflict.** -/
theorem exchange_conflict {y : Experiment} (now : Instant) (valid : y.validate = .ok ())
    (different : y.parameters ≠ e.experiment.parameters)
    (short : (Utf8.encode y.toJson).length ≤ Server.maxBody) :
    exchange config c.base now s (.ok (c.createExperiment ⟨name⟩ y)) =
      (.error .experimentNameConflict, s) := by
  rw [exchange_create own legible now s wf short, put_of_different stored now valid different]
  rfl

omit stored in
/-- A body that is too long is not even looked at. -/
theorem exchange_create_of_long {y : Experiment} (now : Instant)
    (long : Server.maxBody < (Utf8.encode y.toJson).length) :
    (exchange config c.base now s (.ok (c.createExperiment ⟨name⟩ y))).2 = s := by
  have method : Server.Route.operation? (.experiment name.toList) "PUT" =
      some (.ok (.putExperiment name)) := Server.operation?_of_name wf rfl
  rw [exchange_of_route own legible now s (by simp) (isName_experiment wf) (experimentUrl_eq own wf)
    ⟨_, rfl⟩ (ofPath?_experiment wf) method (show "PUT" ≠ "HEAD" by decide)]
  exact Server.perform_of_long rfl long

/-- **An experiment with other parameters leaves no trace**, whatever else may be wrong with it. -/
theorem snd_exchange_of_different {y : Experiment} (now : Instant)
    (different : y.parameters ≠ e.experiment.parameters) :
    (exchange config c.base now s (.ok (c.createExperiment ⟨name⟩ y))).2 = s := by
  by_cases short : (Utf8.encode y.toJson).length ≤ Server.maxBody
  · obtain ⟨why, refused⟩ := exists_error_of_different stored now different
    rw [exchange_create own legible now s wf short, refused]
    rfl
  · exact exchange_create_of_long own legible wf now (Nat.lt_of_not_le short)

/-- The experiment as it is read. -/
theorem exchange_get_stored (now : Instant) :
    exchange config c.base now s (c.getExperimentByName ⟨name⟩) =
      (.ok { e.experiment with links := Server.experimentMeta name e.lastModified }, s) := by
  rw [exchange_get own legible now s wf, Store.find_of_get? stored]
  rfl

end Calls

/-- A client that has read an experiment has a legible token. -/
theorem isLegible_of_get {config : ServerConfig} {c : Client} (own : IsClientOf config c)
    {now : Instant} {s s' : Store} {name : String} {x : Experiment}
    (wf : ExperimentName.isWellFormed name.toList = true)
    (h : exchange config c.base now s (c.getExperimentByName ⟨name⟩) = (.ok x, s')) :
    ∀ t ∈ config.token, Client.IsLegible t := by
  rw [getExperimentByName_eq own wf] at h
  have accepted : 401 ∉ Reply.experiment.accepted := by decide
  exact isLegible_of_answered own ⟨rfl, rfl⟩ ⟨[], by simp [Client.bare]⟩
    (show "GET" ≠ "HEAD" by decide) accepted rfl h

/-! ## 3. Reading, changing, writing back -/

/-- **An experiment that can be changed safely**: what a client may rely on that has read `x` and puts
    `y` back under the same name, at any time and in place of what is stored. -/
structure IsRevisable (config : ServerConfig) (c : Client) (s : Store) (name : String)
    (e : StoredExperiment) (x : Experiment) : Prop where
  /-- What was read is what is stored, with links of its own. -/
  read : x = { e.experiment with links := Server.experimentMeta name e.lastModified }
  /-- With the parameters that were read, the experiment is updated: the store holds what was put,
      with the trials that were there, and nothing else has changed. To put it once more changes
      nothing but the time. -/
  updated : ∀ now y, y.parameters = x.parameters → y.validate = .ok () →
    (Utf8.encode y.toJson).length ≤ Server.maxBody →
    ∃ s', s.put now name y = .ok (⟨false, y.kept, now⟩, s') ∧
      exchange config c.base now s (.ok (c.createExperiment ⟨name⟩ y)) =
        (.ok { y with links := Server.experimentMeta name now }, s') ∧
      (∀ n, s'.get? n = if n = name then
        some { experiment := y.kept, lastModified := now, trials := e.trials } else s.get? n) ∧
      ∀ later, ∃ s'',
        exchange config c.base later s' (.ok (c.createExperiment ⟨name⟩ y)) =
          (.ok { y with links := Server.experimentMeta name later }, s'') ∧
        ∀ n, s''.get? n = if n = name then
          some { experiment := y.kept, lastModified := later, trials := e.trials } else s'.get? n
  /-- With any other parameters the client is told of a conflict. -/
  conflict : ∀ now y, y.parameters ≠ x.parameters → y.validate = .ok () →
    (Utf8.encode y.toJson).length ≤ Server.maxBody →
    exchange config c.base now s (.ok (c.createExperiment ⟨name⟩ y)) =
      (.error .experimentNameConflict, s)
  /-- And whatever else may be wrong with them, the store stays as it is. -/
  untouched : ∀ now y, y.parameters ≠ x.parameters →
    (exchange config c.base now s (.ok (c.createExperiment ⟨name⟩ y))).2 = s

/-- **Whoever has read an experiment can change it safely**, in every state that the server comes to;
    and whoever has a legible token can read it. -/
theorem isRevisable {config : ServerConfig} {c : Client} {s : Store} {name : String}
    {e : StoredExperiment} (own : IsClientOf config c) (reachable : Server.Reachable config s)
    (stored : s.get? name = some e) :
    ((∀ t ∈ config.token, Client.IsLegible t) → ∀ now, ∃ x,
      exchange config c.base now s (c.getExperimentByName ⟨name⟩) = (.ok x, s)) ∧
    ∀ now x s', exchange config c.base now s (c.getExperimentByName ⟨name⟩) = (.ok x, s') →
      IsRevisable config c s name e x := by
  have wf := reachable.isOrderly.isWellFormed name e stored
  refine ⟨fun legible now => ⟨_, exchange_get_stored own legible wf stored now⟩, ?_⟩
  intro now x s' read
  have legible := isLegible_of_get own wf read
  rw [exchange_get_stored own legible wf stored] at read
  cases read
  constructor
  case read => rfl
  case updated =>
    intro now y same valid short
    refine ⟨_, put_of_same stored now valid same,
      exchange_update own legible wf stored now valid same short, ?_, ?_⟩
    · intro n
      exact NameMap.get?_insert s name _ n
    · intro later
      -- what is stored by then has the parameters of `y` itself
      have again := NameMap.get?_insert s name
        { e with experiment := y.kept, lastModified := now } name
      rw [if_pos rfl] at again
      refine ⟨_, exchange_update own legible wf again later valid rfl short, ?_⟩
      intro n
      exact NameMap.get?_insert _ name _ n
  case conflict =>
    intro now y different valid short
    exact exchange_conflict own legible wf stored now valid different short
  case untouched =>
    intro now y different
    exact snd_exchange_of_different own legible wf stored now different

/-- An experiment with one bound that has digits behind the point, as many as there are given. -/
def sampleRate (displayName : String) (digits : List Digit) : Experiment where
  displayName := displayName
  metrics := [{ name := "cost" }]
  parameters :=
    [{ name := "rate", type := .double
       bounds :=
        { min := { negative := false, first := 1, more := [], fraction := digits, exponent := none
                   no_leading_zero := fun h => absurd h (by decide) }
          max := .ofDigit 4 } }]

/-- A store with that experiment in it, its bound written with one digit. -/
def sampleRates : Store :=
  (Server.respond { token := some "secret" } ⟨0, false⟩
    { method := "PUT"
      target := "/experiments/sample".toList
      fields := [Field.ofText "authorization" "Bearer secret".toList]
      body := Utf8.encode (sampleRate "" [0]).toJson } .empty).2

/-- It may be renamed, but to write one zero more is a conflict. -/
theorem isRevisable_sample : ∃ e x,
    IsClientOf { token := some "secret" } (sampleClient "secret") ∧
    Server.Reachable { token := some "secret" } sampleRates ∧ sampleRates.get? "sample" = some e ∧
    IsRevisable { token := some "secret" } (sampleClient "secret") sampleRates "sample" e x ∧
    (∃ renamed, exchange { token := some "secret" } sampleBase ⟨60, false⟩ sampleRates
      (.ok ((sampleClient "secret").createExperiment ⟨"sample"⟩ (sampleRate "renamed" [0]))) =
        (.ok { sampleRate "renamed" [0] with
               links := Server.experimentMeta "sample" ⟨60, false⟩ }, renamed)) ∧
    exchange { token := some "secret" } sampleBase ⟨60, false⟩ sampleRates
      (.ok ((sampleClient "secret").createExperiment ⟨"sample"⟩ (sampleRate "" [0, 0]))) =
        (.error .experimentNameConflict, sampleRates) := by
  have own : IsClientOf { token := some "secret" } (sampleClient "secret") :=
    isClientOf_sample (by decide)
  have reachable : Server.Reachable { token := some "secret" } sampleRates := .step .start _ _
  have legible : ∀ t ∈ some "secret", Client.IsLegible t := by
    intro t ht
    cases ht
    exact ⟨Text.of_all (by decide), 't', by decide, by decide, by decide⟩
  have parameters : (sampleRates.get? "sample").map (·.experiment.parameters) =
      some (sampleRate "" [0]).parameters := by decide +kernel
  obtain ⟨e, stored, same⟩ := Option.map_eq_some_iff.mp parameters
  obtain ⟨readable, safe⟩ := isRevisable own reachable stored
  obtain ⟨x, read⟩ := readable legible ⟨60, false⟩
  have revisable := safe _ _ _ read
  have kept : x.parameters = (sampleRate "" [0]).parameters := by
    rw [revisable.read]
    exact same
  obtain ⟨renamed, -, answer, -, -⟩ := revisable.updated ⟨60, false⟩ (sampleRate "renamed" [0])
    kept.symm rfl (by decide +kernel)
  refine ⟨e, x, own, reachable, stored, revisable, ⟨renamed, answer⟩, ?_⟩
  refine revisable.conflict ⟨60, false⟩ (sampleRate "" [0, 0]) ?_ rfl (by decide +kernel)
  rw [kept]
  decide

end TrialProtocol.Proxy
