import TrialProtocol.Proofs.Store.Run

/-!
# The life of an experiment and its trials

What may happen to an experiment between two states of a run, as long as nobody deletes it.

* `Evolution` relates the experiment in the two states, given what was asked and answered between
  them. It holds over one step (`Evolution.ofTurn`) and composes (`Evolution.trans`), so it holds over
  every run (`Run.evolution`).
* A trial waits for a report, is settled by the one report that is taken, and stays as it is after.
-/

namespace TrialProtocol

namespace Store

/-! ## 1. What a step says about a name -/

/-- The id that a step gives to a new trial of an experiment. -/
def givenId? (name : String) : Event → Option Nat
  | (.dispense n, .ok (.dispensed id _)) => if n = name then some id else none
  | (.createTrial n _, .ok (.created id)) => if n = name then some id else none
  | _ => none

/-- Whether a step takes a report of the trial at a place, counted from zero. -/
def reports (name : String) (i : Nat) : Event → Bool
  | (.report n id _, .ok _) => n == name && trialIndex? id == some i
  | _ => false

/-- Whether a step deletes an experiment. -/
def removes (name : String) : Event → Bool
  | (.delete n, .ok _) => n == name
  | _ => false

theorem givenId?_of_idle {name : String} {op : Operation} {r : Result} (h : Idle name op r) :
    givenId? name (op, r) = none := by
  cases h with
  | elsewhere other =>
    unfold givenId?
    split
    all_goals first
      | rfl
      | rename_i he
        cases he
        exact if_neg fun e => other (by rw [Operation.target?, e])
  | refused => cases op <;> rfl
  | looked read => cases op <;> first | rfl | cases read

theorem reports_of_idle {name : String} {op : Operation} {r : Result} (h : Idle name op r)
    (i : Nat) : reports name i (op, r) = false := by
  cases h with
  | elsewhere other =>
    unfold reports
    split
    · rename_i n id outcome a he
      cases he
      have hn : (n == name) = false := by
        simpa using fun e => other (by rw [Operation.target?, e])
      rw [hn, Bool.false_and]
    · rfl
  | refused => cases op <;> rfl
  | looked read => cases op <;> first | rfl | cases read

end Store

open Store (Event Turn givenId? reports removes)

/-! ## 2. What may happen to a trial -/

/-- What a trial may have become: it is as it was, or it has had its report. -/
def StoredTrial.Becomes (t t' : StoredTrial) : Prop :=
  t'.assignments = t.assignments ∧
    (t' = t ∨ (t.status = .active ∧ (t'.status = .completed ∨ t'.status = .failed)))

theorem StoredTrial.becomes_settled {t : StoredTrial} (h : t.status = .active)
    (outcome : TrialValues) : t.Becomes (t.settled outcome) :=
  ⟨t.assignments_settled outcome, .inr ⟨h, t.status_settled outcome⟩⟩

namespace StoredTrial.Becomes

variable {t u v : StoredTrial}

theorem refl (t : StoredTrial) : t.Becomes t :=
  ⟨rfl, .inl rfl⟩

/-- A trial that had its report does not change any more. -/
theorem eq_of_not_active (h : t.Becomes u) (ht : t.status ≠ .active) : u = t :=
  h.2.resolve_right fun e => ht e.1

theorem not_active (h : t.Becomes u) (ht : t.status ≠ .active) : u.status ≠ .active := by
  rw [h.eq_of_not_active ht]
  exact ht

theorem trans (first : t.Becomes u) (second : u.Becomes v) : t.Becomes v := by
  refine ⟨second.1.trans first.1, ?_⟩
  rcases first.2 with rfl | ⟨active, settled⟩
  · exact second.2
  · have hu : u.status ≠ .active := by
      rcases settled with h | h <;> simp [h]
    rw [second.eq_of_not_active hu]
    exact .inr ⟨active, settled⟩

end StoredTrial.Becomes

/-! ## 3. What may happen to an experiment -/

/-- **What may have happened to an experiment while it was there**, with the steps that happened. -/
structure StoredExperiment.Evolution (name : String) (events : List Event)
    (e e' : StoredExperiment) : Prop where
  parameters : e'.experiment.parameters = e.experiment.parameters
  length_le : e.trials.length ≤ e'.trials.length
  ids : events.filterMap (givenId? name) =
    List.range' (e.trials.length + 1) (e'.trials.length - e.trials.length)
  trials : ∀ (i : Nat) (t : StoredTrial), e.trials[i]? = some t →
    ∃ t', e'.trials[i]? = some t' ∧ t.Becomes t' ∧
      (t' ≠ t → ∃ event ∈ events, reports name i event = true)
  /-- At most one report is taken of a trial, which waited for it and has been settled since. -/
  once : ∀ i : Nat, events.countP (reports name i) = 0 ∨
    (events.countP (reports name i) = 1 ∧
      (∀ t, e.trials[i]? = some t → t.status = .active) ∧
      ∃ t', e'.trials[i]? = some t' ∧ t'.status ≠ .active)

namespace StoredExperiment.Evolution

variable {name : String} {e e' e'' : StoredExperiment} {before after : List Event}

/-- Without a trial more and without a report, the trials are as they were. -/
theorem of_trials_eq {events : List Event}
    (parameters : e'.experiment.parameters = e.experiment.parameters)
    (trials : e'.trials = e.trials) (ids : events.filterMap (givenId? name) = [])
    (quiet : ∀ i, events.countP (reports name i) = 0) : Evolution name events e e' where
  parameters := parameters
  length_le := Nat.le_of_eq (by rw [trials])
  ids := by rw [ids, trials, Nat.sub_self, List.range'_zero]
  trials i t ht := ⟨t, by rw [trials]; exact ht, .refl t, fun h => absurd rfl h⟩
  once i := .inl (quiet i)

theorem refl (e : StoredExperiment) : Evolution name [] e e :=
  of_trials_eq rfl rfl rfl fun _ => rfl

theorem trans (first : Evolution name before e e') (second : Evolution name after e' e'') :
    Evolution name (before ++ after) e e'' where
  parameters := second.parameters.trans first.parameters
  length_le := Nat.le_trans first.length_le second.length_le
  ids := by
    have h₁ := first.length_le
    have h₂ := second.length_le
    rw [List.filterMap_append, first.ids, second.ids]
    rw [show e''.trials.length - e.trials.length =
      (e'.trials.length - e.trials.length) + (e''.trials.length - e'.trials.length) by omega]
    rw [← List.range'_append_1]
    congr 2
    omega
  trials i t ht := by
    obtain ⟨t', ht', becomes, reported⟩ := first.trials i t ht
    obtain ⟨t'', ht'', becomes', reported'⟩ := second.trials i t' ht'
    refine ⟨t'', ht'', becomes.trans becomes', fun hne => ?_⟩
    by_cases h : t' = t
    · obtain ⟨event, hmem, hr⟩ := reported' (by rw [h]; exact hne)
      exact ⟨event, List.mem_append_right _ hmem, hr⟩
    · obtain ⟨event, hmem, hr⟩ := reported h
      exact ⟨event, List.mem_append_left _ hmem, hr⟩
  once i := by
    rw [List.countP_append]
    rcases first.once i with h₁ | ⟨h₁, active, t', ht', settled⟩
    · rcases second.once i with h₂ | ⟨h₂, active, t'', ht'', settled⟩
      · exact .inl (by rw [h₁, h₂])
      · refine .inr ⟨by rw [h₁, h₂], fun t ht => ?_, t'', ht'', settled⟩
        -- a trial that waits later waited from the start
        obtain ⟨t', ht', becomes, -⟩ := first.trials i t ht
        exact Classical.byContradiction fun hn => becomes.not_active hn (active t' ht')
    · rcases second.once i with h₂ | ⟨h₂, active', -⟩
      · obtain ⟨t'', ht'', becomes, -⟩ := second.trials i t' ht'
        exact .inr ⟨by rw [h₁, h₂], active, t'', ht'', becomes.not_active settled⟩
      · exact absurd (active' t' ht') settled

/-- One trial more, with the next id. -/
theorem addTrial (assignments : List Assignment) {event : Event}
    (given : givenId? name event = some (e.trials.length + 1))
    (quiet : ∀ i, reports name i event = false) :
    Evolution name [event] e (e.addTrial assignments) where
  parameters := rfl
  length_le := by simp
  ids := by simp [given]
  trials i t ht := by
    have hi : i < e.trials.length := (List.getElem?_eq_some_iff.mp ht).1
    refine ⟨t, ?_, .refl t, fun h => absurd rfl h⟩
    rw [getElem?_addTrial, if_neg (Nat.ne_of_lt hi)]
    exact ht
  once i := .inl (by simp [quiet i])

/-- One trial settled by its report. -/
theorem settle {i : Nat} {t : StoredTrial} (ht : e.trials[i]? = some t)
    (active : t.status = .active) (outcome : TrialValues) {event : Event}
    (given : givenId? name event = none) (named : ∀ j, reports name j event = (i == j)) :
    Evolution name [event] e (e.settle i t outcome) where
  parameters := rfl
  length_le := by simp
  ids := by simp [given]
  trials j u hu := by
    rw [getElem?_settle e ht]
    by_cases hij : i = j
    · subst hij
      have hut : u = t := Option.some.inj (hu.symm.trans ht)
      subst hut
      exact ⟨u.settled outcome, if_pos rfl, StoredTrial.becomes_settled active outcome,
        fun _ => ⟨event, List.mem_singleton_self _, by simp [named]⟩⟩
    · exact ⟨u, by rw [if_neg hij, hu], .refl u, fun h => absurd rfl h⟩
  once j := by
    by_cases hij : i = j
    · subst hij
      refine .inr ⟨by simp [named], fun u hu => ?_, t.settled outcome, ?_,
        t.status_settled_ne outcome⟩
      · rw [Option.some.inj (hu.symm.trans ht)]
        exact active
      · rw [getElem?_settle e ht, if_pos rfl]
    · exact .inl (by simp [named, hij])

/-- **A step that does not delete the experiment lets it evolve.** -/
theorem ofTurn {op : Store.Operation} {r : Store.Result} {entry : Option StoredExperiment}
    (turn : Turn name op r (some e) entry) (kept : removes name (op, r) = false) :
    ∃ e', entry = some e' ∧ Evolution name [(op, r)] e e' := by
  cases turn with
  | idle idle =>
    have ids : [(op, r)].filterMap (givenId? name) = [] := by
      simp [Store.givenId?_of_idle idle]
    have quiet : ∀ i, [(op, r)].countP (reports name i) = 0 := fun i => by
      simp [Store.reports_of_idle idle]
    exact ⟨e, rfl, of_trials_eq rfl rfl ids quiet⟩
  | updated valid same => exact ⟨_, rfl, of_trials_eq same.symm rfl rfl fun _ => rfl⟩
  | deleted => simp [removes] at kept
  | dispensed unspent free => exact ⟨_, rfl, addTrial _ (if_pos rfl) fun _ => rfl⟩
  | proposed known => exact ⟨_, rfl, addTrial _ (if_pos rfl) fun _ => rfl⟩
  | reported active admitted =>
    obtain ⟨hi, ht, hs⟩ := Store.activeTrial?_eq_some.mp active
    exact ⟨_, rfl, settle ht hs _ rfl fun j => by simp [reports, hi]⟩

end StoredExperiment.Evolution

/-! ## 4. Whole runs -/

namespace Store

variable {config : ServerConfig}

/-- **What every turn keeps holds after a run** of steps that leave the experiment where it is, if it
    holds at the start. -/
theorem Run.preserves {name : String} {Allowed : Event → Prop}
    {P : List Event → StoredExperiment → Prop}
    (kept : ∀ event, Allowed event → removes name event = false)
    (step : ∀ {before : List Event} {op : Operation} {r : Result} {e e' : StoredExperiment},
      Allowed (op, r) → Turn name op r (some e) (some e') → P before e → P (before ++ [(op, r)]) e')
    {s t : Store} {events : List Event} (run : Run config s events t)
    (allowed : ∀ event ∈ events, Allowed event) {e : StoredExperiment}
    (h : s.get? name = some e) (start : P [] e) : ∃ e', t.get? name = some e' ∧ P events e' := by
  induction run with
  | start => exact ⟨e, h, start⟩
  | @step events t run op ih =>
    obtain ⟨e', ht, holds⟩ := ih fun event hm => allowed event (List.mem_append_left _ hm)
    have last := allowed _ (List.mem_append_right _ (List.mem_singleton_self _))
    have turn := turn_perform config t op name
    rw [ht] at turn
    obtain ⟨e'', he, -⟩ := StoredExperiment.Evolution.ofTurn turn (kept _ last)
    rw [he] at turn
    exact ⟨e'', he, step last turn holds⟩

/-- **An experiment that nobody deletes evolves over a whole run.** -/
theorem Run.evolution {s t : Store} {events : List Event} (run : Run config s events t)
    {name : String} (kept : ∀ event ∈ events, removes name event = false) {e : StoredExperiment}
    (h : s.get? name = some e) :
    ∃ e', t.get? name = some e' ∧ e.Evolution name events e' := by
  refine run.preserves (P := fun events e' => e.Evolution name events e') (fun _ kept => kept)
    (fun {before op r e' e''} kept turn past => ?_) kept h (.refl e)
  obtain ⟨_, he, future⟩ := StoredExperiment.Evolution.ofTurn turn kept
  cases he
  exact past.trans future

/-- A created experiment stands there as it was given, without links and without trials. -/
theorem get?_of_created {s s' : Store} {now : Instant} {name : String} {experiment : Experiment}
    {stored : Stored} (put : s.put now name experiment = .ok (stored, s'))
    (created : stored.created = true) :
    s'.get? name = some { experiment := experiment.kept, lastModified := now } := by
  have turn := turn_perform {} s (.put now name experiment) name
  have hp : perform {} s (.put now name experiment) = (.ok (.stored stored), s') := by
    rw [perform, put]
    rfl
  rw [hp] at turn
  generalize s.get? name = entry, s'.get? name = entry' at turn ⊢
  cases turn with
  | idle idle =>
    cases idle with
    | elsewhere other => exact absurd rfl other
    | looked read => cases read
  | created valid => rfl
  | updated valid same => cases created

/-- The written id of a trial. -/
def idText (id : Nat) : String :=
  String.ofList (Nat.toDigits 10 id)

/-- A written id names the trial at its place. -/
theorem trialIndex?_idText {i : Nat} (h : i + 1 ≤ Text.maxWord64) :
    trialIndex? (idText (i + 1)) = some i := by
  rw [trialIndex?, idText, String.toList_ofList, Text.readNat_toDigits h]

/-- It names no other one. -/
theorem eq_of_trialIndex?_idText {i id : Nat} (h : trialIndex? (idText id) = some i) :
    id = i + 1 := by
  rw [trialIndex?, idText, String.toList_ofList] at h
  split at h
  · rename_i n read
    cases h
    exact (Text.eq_of_readNat_toDigits read).symm
  · cases h

/-- What holds at two states of a run, `before` and `after` being the steps from the creation of the
    experiment to the first of them and from there to the second. -/
structure LifeCycle (name : String) (created : Experiment) (before after : List Event)
    (s : Store) (e e' : StoredExperiment) : Prop where
  parameters : e.experiment.parameters = created.parameters ∧
    e'.experiment.parameters = created.parameters
  ids : before.filterMap (givenId? name) = List.range' 1 e.trials.length
  grows : e.trials.length ≤ e'.trials.length
  /-- A trial stays what it is, or settles; then a report of it was taken. -/
  trials : ∀ (i : Nat) (t : StoredTrial), e.trials[i]? = some t →
    ∃ t', e'.trials[i]? = some t' ∧ t.Becomes t' ∧
      (t' ≠ t → ∃ event ∈ after, reports name i event = true)
  once : ∀ i, (before ++ after).countP (reports name i) ≤ 1
  /-- A trial that waits for a report gets one as soon as somebody gives it. -/
  answered : ∀ (id : UInt64) (t : StoredTrial), id ≠ 0 → e.trials[id.toNat - 1]? = some t →
    t.status = .active → ∀ outcome, e.experiment.Admits outcome →
    ∃ s', s.report name (idText id.toNat) outcome = .ok s'

/-- **The life cycle of an experiment**, from its creation on until it is deleted, at any two states of
    any run. -/
theorem lifeCycle {s₀ s₁ s t : Store} {now : Instant} {name : String} {experiment : Experiment}
    {stored : Stored} (put : s₀.put now name experiment = .ok (stored, s₁))
    (created : stored.created = true) {before after : List Event} (first : Run config s₁ before s)
    (second : Run config s after t)
    (kept : ∀ event ∈ before ++ after, removes name event = false) :
    ∃ e e', s.get? name = some e ∧ t.get? name = some e' ∧
      LifeCycle name experiment before after s e e' := by
  have h₁ := get?_of_created put created
  obtain ⟨e, hs, past⟩ := first.evolution
    (fun event hm => kept event (List.mem_append_left _ hm)) h₁
  obtain ⟨e', ht, future⟩ := second.evolution
    (fun event hm => kept event (List.mem_append_right _ hm)) hs
  refine ⟨e, e', hs, ht, ?_⟩
  constructor
  case parameters => exact ⟨past.parameters, future.parameters.trans past.parameters⟩
  case ids => simpa using past.ids
  case grows => exact future.length_le
  case trials => exact future.trials
  case once =>
    intro i
    rcases (past.trans future).once i with h | ⟨h, -⟩ <;> omega
  case answered =>
    intro id u hid hu hs' outcome admitted
    have hpos : id.toNat - 1 + 1 = id.toNat := by
      have : id.toNat ≠ 0 := fun e => hid (UInt64.toNat_inj.mp e)
      omega
    have hi : trialIndex? (idText id.toNat) = some (id.toNat - 1) := by
      rw [← hpos]
      refine trialIndex?_idText ?_
      have := id.toNat_lt
      rw [hpos, Text.maxWord64]
      omega
    exact ⟨_, report_of_active hs (activeTrial?_eq_some.mpr ⟨hi, hu, hs'⟩) admitted⟩

/-- A report that names an unknown metric is refused and the next one is taken. -/
theorem lifeCycle_sample :
    ∃ stored s₁ before s after t, Store.put .empty ⟨0, false⟩ "sample" .sample = .ok (stored, s₁) ∧
      stored.created = true ∧ Run {} s₁ before s ∧ Run {} s after t ∧
      (∀ event ∈ before ++ after, removes "sample" event = false) ∧
      ∃ e e', s.get? "sample" = some e ∧ t.get? "sample" = some e' ∧
        LifeCycle "sample" .sample before after s e e' := by
  let one : Double := ⟨0x3ff0000000000000⟩
  let refused : TrialValues := { values := [{ metricName := "speed", value := one }] }
  let taken : TrialValues := { values := [{ metricName := "cost", value := one }] }
  let s₁ : Store := NameMap.insert .empty "sample"
    { experiment := Experiment.sample.kept, lastModified := ⟨0, false⟩ }
  have put : Store.put .empty ⟨0, false⟩ "sample" .sample =
    .ok (⟨true, Experiment.sample.kept, ⟨0, false⟩⟩, s₁) := rfl
  let s₂ : Store := (perform {} s₁ (.dispense "sample")).2
  let s₃ : Store := (perform {} s₂ (.report "sample" "1" refused)).2
  have here : Run {} s₁ [] s₁ := .start
  have there : Run {} s₃ [] s₃ := .start
  have first := here |>.step (.dispense "sample") |>.step (.report "sample" "1" refused)
  have second := there |>.step (.report "sample" "1" taken) |>.step (.delete "other")
  exact ⟨_, s₁, _, s₃, _, _, put, rfl, first, second, by decide,
    lifeCycle put rfl first second (by decide)⟩

end Store

end TrialProtocol
