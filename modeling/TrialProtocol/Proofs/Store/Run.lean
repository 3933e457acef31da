import TrialProtocol.Proofs.Experiment.Valid
import TrialProtocol.Store

/-!
# Runs of a store

The operations of a store as data, a run as the list of what was asked and answered, and what one
operation can do to what stands under one name.

* `perform` carries out any operation; `Run` chains them, in any order and on any names.
* `Turn` lists everything that can happen to one name in one step. `turn_perform` is the only place
  where the operations are opened: every invariant of a store is a case analysis of `Turn`.
* `dispense_of_get?`, `report_of_get?`: an operation on an experiment that is there.
-/

namespace TrialProtocol

namespace Store

/-! ## 1. Operations and their answers -/

/-- What can be asked of a store. The clock is read when an experiment is put. -/
inductive Operation where
  | put (now : Instant) (name : String) (experiment : Experiment)
  | get (name : String)
  | delete (name : String)
  | list (query : PageQuery)
  | dispense (name : String)
  | createTrial (name : String) (assignments : List Assignment)
  | listTrials (name : String)
  | report (name id : String) (outcome : TrialValues)
  deriving DecidableEq

/-- What a store answers to an operation that it carries out. -/
inductive Answer where
  | stored (result : Stored)
  | experiment (experiment : Experiment) (lastModified : Instant)
  | deleted
  | page (page : Page)
  | dispensed (id : Nat) (assignments : List Assignment)
  | created (id : Nat)
  | trials (items : List TrialItem)
  | reported
  deriving DecidableEq

/-- The answer to an operation, or why it is refused. -/
abbrev Result := Except StoreError Answer

/-- The result of an operation that may change the store, and the store afterwards. -/
def settle {α : Type} (s : Store) (answer : α → Answer) : Except StoreError (α × Store) → Result × Store
  | .ok (x, s') => (.ok (answer x), s')
  | .error why => (.error why, s)

/-- Carries out an operation. A refused one leaves the store as it was. -/
def perform (config : ServerConfig) (s : Store) : Operation → Result × Store
  | .put now name experiment => settle s .stored (s.put now name experiment)
  | .get name => ((s.find name).map fun e => .experiment e.experiment e.lastModified, s)
  | .delete name => settle s (fun () => .deleted) ((s.delete name).map ((), ·))
  | .list query => (.ok (.page (s.page config.pageSize query)), s)
  | .dispense name => settle s (fun (id, assignments) => .dispensed id assignments) (s.dispense name)
  | .createTrial name assignments => settle s .created (s.createTrial name assignments)
  | .listTrials name => ((s.listTrials name).map .trials, s)
  | .report name id outcome => settle s (fun () => .reported) ((s.report name id outcome).map ((), ·))

/-- The name that an operation is about; a listing is about none. -/
def Operation.target? : Operation → Option String
  | .put _ name _ | .get name | .delete name | .dispense name | .createTrial name _
  | .listTrials name | .report name _ _ => some name
  | .list _ => none

/-- Whether an operation only looks. -/
def Operation.isRead : Operation → Bool
  | .get _ | .list _ | .listTrials _ => true
  | _ => false

/-- One step of a run: what was asked, and the answer. -/
abbrev Event := Operation × Result

/-- The runs from a store: every order of operations, carried out or refused. -/
inductive Run (config : ServerConfig) (start : Store) : List Event → Store → Prop where
  | start : Run config start [] start
  | step {events : List Event} {s : Store} (run : Run config start events s) (op : Operation) :
      Run config start (events ++ [(op, (perform config s op).1)]) (perform config s op).2

/-! ## 2. What one step can do to a name -/

end Store

/-- The budget is spent: as many trials are there as the experiment may have. -/
def StoredExperiment.IsSpent (e : StoredExperiment) : Prop :=
  e.experiment.optimization.experimentBudget ≠ 0 ∧
    e.experiment.optimization.experimentBudget.toNat ≤ e.trials.length

/-- As many trials wait for a report as may run at a time. -/
def StoredExperiment.IsFull (e : StoredExperiment) : Prop :=
  e.experiment.optimization.parallelTrials ≠ 0 ∧
    e.experiment.optimization.parallelTrials.toNat ≤ e.activeTrials

instance (e : StoredExperiment) : Decidable e.IsSpent :=
  inferInstanceAs (Decidable (_ ∧ _))

instance (e : StoredExperiment) : Decidable e.IsFull :=
  inferInstanceAs (Decidable (_ ∧ _))

/-- An outcome that a trial of the experiment may have: a failure, or values of its metrics. -/
def Experiment.Admits (e : Experiment) (outcome : TrialValues) : Prop :=
  outcome.failed = true ∨ ∀ v ∈ outcome.values, (e.metric? v.metricName).isSome

/-- The trial after its report. -/
def StoredTrial.settled (t : StoredTrial) (outcome : TrialValues) : StoredTrial :=
  if outcome.failed then { t with status := .failed, values := [] }
  else { t with status := .completed, values := outcome.values }

theorem StoredTrial.assignments_settled (t : StoredTrial) (outcome : TrialValues) :
    (t.settled outcome).assignments = t.assignments := by
  unfold settled
  split <;> rfl

/-- After its report a trial has failed without values, or it is completed. -/
theorem StoredTrial.settled_cases (t : StoredTrial) (outcome : TrialValues) :
    ((t.settled outcome).status = .failed ∧ (t.settled outcome).values = []) ∨
      (t.settled outcome).status = .completed := by
  unfold settled
  split
  · exact .inl ⟨rfl, rfl⟩
  · exact .inr rfl

theorem StoredTrial.status_settled (t : StoredTrial) (outcome : TrialValues) :
    (t.settled outcome).status = .completed ∨ (t.settled outcome).status = .failed := by
  rcases t.settled_cases outcome with ⟨failed, -⟩ | completed
  · exact .inr failed
  · exact .inl completed

theorem StoredTrial.status_settled_ne (t : StoredTrial) (outcome : TrialValues) :
    (t.settled outcome).status ≠ .active := by
  rcases t.status_settled outcome with h | h <;> simp [h]

/-- The experiment after the report of its trial at place `i`. -/
def StoredExperiment.settle (e : StoredExperiment) (i : Nat) (t : StoredTrial)
    (outcome : TrialValues) : StoredExperiment :=
  { e with trials := e.trials.set i (t.settled outcome) }

namespace StoredExperiment

variable (e : StoredExperiment)

@[simp] theorem length_addTrial (assignments : List Assignment) :
    (e.addTrial assignments).trials.length = e.trials.length + 1 := by
  simp [addTrial]

@[simp] theorem length_settle (i : Nat) (t : StoredTrial) (outcome : TrialValues) :
    (e.settle i t outcome).trials.length = e.trials.length := by
  simp [settle]

/-- A new trial stands behind the old ones. -/
theorem getElem?_addTrial (assignments : List Assignment) (i : Nat) :
    (e.addTrial assignments).trials[i]? =
      if i = e.trials.length then some { assignments } else e.trials[i]? := by
  rw [addTrial]
  by_cases hi : i < e.trials.length
  · rw [List.getElem?_append_left hi, if_neg (Nat.ne_of_lt hi)]
  · by_cases he : i = e.trials.length
    · rw [if_pos he, he, List.getElem?_concat_length]
    · rw [if_neg he, List.getElem?_eq_none (by simp; omega), List.getElem?_eq_none (by omega)]

theorem mem_addTrial {assignments : List Assignment} {t : StoredTrial}
    (h : t ∈ (e.addTrial assignments).trials) : t ∈ e.trials ∨ t = { assignments } := by
  rcases List.mem_append.mp h with h | h
  · exact .inl h
  · exact .inr (List.mem_singleton.mp h)

/-- A report changes the trial at its place. -/
theorem getElem?_settle {i : Nat} {t : StoredTrial} (ht : e.trials[i]? = some t)
    (outcome : TrialValues) (j : Nat) : (e.settle i t outcome).trials[j]? =
      if i = j then some (t.settled outcome) else e.trials[j]? := by
  have hi : i < e.trials.length := (List.getElem?_eq_some_iff.mp ht).1
  rw [settle, List.getElem?_set, if_pos hi]

/-- A new trial waits for its report. -/
theorem activeTrials_addTrial (assignments : List Assignment) :
    (e.addTrial assignments).activeTrials = e.activeTrials + 1 := by
  simp [addTrial, activeTrials]

/-- A settled trial waits no more. -/
theorem activeTrials_settle {i : Nat} {t : StoredTrial} (ht : e.trials[i]? = some t)
    (active : t.status = .active) (outcome : TrialValues) :
    (e.settle i t outcome).activeTrials + 1 = e.activeTrials := by
  obtain ⟨hi, rfl⟩ := List.getElem?_eq_some_iff.mp ht
  have hpos : 0 < e.trials.countP (·.status == .active) :=
    List.countP_pos_iff.mpr ⟨_, List.getElem_mem hi, by simp [active]⟩
  have hs : ((e.trials[i].settled outcome).status == .active) = false := by
    simpa using StoredTrial.status_settled_ne _ outcome
  unfold activeTrials settle
  rw [List.countP_set hi]
  simp only [active, hs]
  simp
  omega

end StoredExperiment

namespace Store

/-- A step that leaves a name alone: it is about another one, or refused, or only looks. -/
inductive Idle (name : String) : Operation → Result → Prop where
  | elsewhere {op : Operation} {r : Result} (other : op.target? ≠ some name) : Idle name op r
  | refused {op : Operation} {why : StoreError} : Idle name op (.error why)
  | looked {op : Operation} {r : Result} (read : op.isRead = true) : Idle name op r

/-- **What one step can do to what stands under `name`**, with everything that was checked for it. -/
inductive Turn (name : String) :
    Operation → Result → Option StoredExperiment → Option StoredExperiment → Prop where
  | idle {op : Operation} {r : Result} {entry : Option StoredExperiment} (idle : Idle name op r) :
      Turn name op r entry entry
  | created {now : Instant} {experiment : Experiment} (valid : experiment.validate = .ok ()) :
      Turn name (.put now name experiment) (.ok (.stored ⟨true, experiment.kept, now⟩))
        none (some { experiment := experiment.kept, lastModified := now })
  | updated {now : Instant} {experiment : Experiment} {e : StoredExperiment}
      (valid : experiment.validate = .ok ())
      (same : e.experiment.parameters = experiment.parameters) :
      Turn name (.put now name experiment) (.ok (.stored ⟨false, experiment.kept, now⟩))
        (some e) (some { e with experiment := experiment.kept, lastModified := now })
  | deleted {e : StoredExperiment} : Turn name (.delete name) (.ok .deleted) (some e) none
  | dispensed {e : StoredExperiment} (unspent : ¬e.IsSpent) (free : ¬e.IsFull) :
      Turn name (.dispense name) (.ok (.dispensed (e.trials.length + 1) e.lowerBounds))
        (some e) (some (e.addTrial e.lowerBounds))
  | proposed {e : StoredExperiment} {assignments : List Assignment}
      (known : e.experiment.HasParameters assignments) :
      Turn name (.createTrial name assignments) (.ok (.created (e.trials.length + 1)))
        (some e) (some (e.addTrial assignments))
  | reported {e : StoredExperiment} {id : String} {outcome : TrialValues} {i : Nat}
      {t : StoredTrial} (active : activeTrial? e id = some (i, t))
      (admitted : e.experiment.Admits outcome) :
      Turn name (.report name id outcome) (.ok .reported) (some e) (some (e.settle i t outcome))

/-! ## 3. Operations on what is there -/

section Present

variable {s : Store} {name : String} {e : StoredExperiment}

theorem find_of_get? (h : s.get? name = some e) : s.find name = .ok e := by
  rw [find, h]

theorem find_of_get?_eq_none (h : s.get? name = none) :
    s.find name = .error (.experimentNotFound name) := by
  rw [find, h]

/-- The dispenser refuses a spent experiment before a full one, and gives the lower bounds otherwise. -/
theorem dispense_of_get? (h : s.get? name = some e) :
    (e.IsSpent ∧ s.dispense name = .error (.noMoreTrials name)) ∨
    (¬e.IsSpent ∧ e.IsFull ∧ s.dispense name =
      .error (.stillRunning e.experiment.optimization.parallelTrials name)) ∨
    (¬e.IsSpent ∧ ¬e.IsFull ∧ s.dispense name =
      .ok ((e.trials.length + 1, e.lowerBounds), s.insert name (e.addTrial e.lowerBounds))) := by
  have hd : s.dispense name =
      if e.IsSpent then .error (.noMoreTrials name)
      else if e.IsFull then .error (.stillRunning e.experiment.optimization.parallelTrials name)
      else .ok ((e.trials.length + 1, e.lowerBounds),
        s.insert name (e.addTrial e.lowerBounds)) := by
    rw [dispense, find_of_get? h]
    rfl
  by_cases spent : e.IsSpent
  · exact .inl ⟨spent, by rw [hd, if_pos spent]⟩
  · by_cases full : e.IsFull
    · exact .inr (.inl ⟨spent, full, by rw [hd, if_neg spent, if_pos full]⟩)
    · exact .inr (.inr ⟨spent, full, by rw [hd, if_neg spent, if_neg full]⟩)

/-- An update keeps the parameters and the trials. -/
theorem put_of_get? (h : s.get? name = some e) (now : Instant) (experiment : Experiment) :
    (∃ why, s.put now name experiment = .error why) ∨
    (experiment.validate = .ok () ∧ e.experiment.parameters = experiment.parameters ∧
      s.put now name experiment = .ok (⟨false, experiment.kept, now⟩,
        s.insert name { e with experiment := experiment.kept, lastModified := now })) := by
  cases hv : experiment.validate with
  | error why => exact .inl ⟨_, by rw [put, hv]⟩
  | ok u =>
    by_cases same : e.experiment.parameters = experiment.parameters
    · refine .inr ⟨rfl, same, ?_⟩
      rw [put, hv, h]
      exact if_pos same
    · refine .inl ⟨.differentParameters name, ?_⟩
      rw [put, hv, h]
      exact if_neg same

/-- A proposed trial is refused exactly for a parameter that the experiment does not have. -/
theorem createTrial_of_get? (h : s.get? name = some e) (assignments : List Assignment) :
    (∃ why, s.createTrial name assignments = .error why) ∨
    (e.experiment.HasParameters assignments ∧ s.createTrial name assignments =
      .ok (e.trials.length + 1, s.insert name (e.addTrial assignments))) := by
  unfold createTrial
  rw [find_of_get? h]
  cases hf : assignments.find? fun a => (e.experiment.parameter? a.parameterName).isNone with
  | some a =>
    refine .inl ⟨.unknownParameter a.parameterName, ?_⟩
    simp only [bind, Except.bind, hf]
  | none =>
    refine .inr ⟨fun a ha => ?_, ?_⟩
    · have := List.find?_eq_none.mp hf a ha
      simpa [Option.isSome_iff_ne_none] using this
    · simp only [bind, Except.bind, hf]
      rfl

/-- The trial that an id names waits for a report. -/
theorem activeTrial?_eq_some {id : String} {i : Nat} {t : StoredTrial} :
    activeTrial? e id = some (i, t) ↔
      trialIndex? id = some i ∧ e.trials[i]? = some t ∧ t.status = .active := by
  unfold activeTrial?
  constructor
  · intro h
    obtain ⟨j, hj, h⟩ := Option.bind_eq_some_iff.mp h
    obtain ⟨u, hu, h⟩ := Option.bind_eq_some_iff.mp h
    by_cases hs : u.status = .active
    · rw [if_pos hs] at h
      cases h
      exact ⟨hj, hu, hs⟩
    · rw [if_neg hs] at h
      cases h
  · rintro ⟨hi, ht, hs⟩
    simp [hi, ht, hs]

/-- **A report of a trial that waits for one is taken if the experiment admits the outcome.** -/
theorem report_of_active {id : String} {i : Nat} {t : StoredTrial} {outcome : TrialValues}
    (h : s.get? name = some e) (active : activeTrial? e id = some (i, t))
    (admitted : e.experiment.Admits outcome) :
    s.report name id outcome = .ok (s.insert name (e.settle i t outcome)) := by
  rw [report, h]
  by_cases hf : outcome.failed = true
  · simp only [active, StoredExperiment.settle, StoredTrial.settled, if_pos hf]
  · have hv : ∀ v ∈ outcome.values, (e.experiment.metric? v.metricName).isSome :=
      admitted.resolve_left hf
    have hn : outcome.values.find? (fun v => (e.experiment.metric? v.metricName).isNone) = none :=
      List.find?_eq_none.mpr fun v hm => by
        have := Option.isSome_iff_ne_none.mp (hv v hm)
        simpa using this
    simp only [active, StoredExperiment.settle, StoredTrial.settled, if_neg hf, hn]

/-- Every other report is refused. -/
theorem report_of_get? (h : s.get? name = some e) (id : String) (outcome : TrialValues) :
    (∃ why, s.report name id outcome = .error why) ∨
    ∃ i t, activeTrial? e id = some (i, t) ∧ e.experiment.Admits outcome ∧
      s.report name id outcome = .ok (s.insert name (e.settle i t outcome)) := by
  cases ha : activeTrial? e id with
  | none =>
    left
    rw [report, h]
    simp only [ha]
    exact ⟨_, rfl⟩
  | some it =>
    obtain ⟨i, t⟩ := it
    by_cases admitted : e.experiment.Admits outcome
    · exact .inr ⟨i, t, rfl, admitted, report_of_active h ha admitted⟩
    · left
      have hf : ¬outcome.failed = true := fun hf => admitted (.inl hf)
      rw [report, h]
      simp only [ha, if_neg hf]
      cases hn : outcome.values.find? fun v => (e.experiment.metric? v.metricName).isNone with
      | some v => exact ⟨_, rfl⟩
      | none =>
        refine absurd (.inr fun v hv => ?_) admitted
        have := List.find?_eq_none.mp hn v hv
        simpa [Option.isSome_iff_ne_none] using this

end Present

/-! ## 4. Every step is a turn -/

/-- The store with something, or nothing, under a name. -/
def withEntry (s : Store) (name : String) : Option StoredExperiment → Store
  | some e => s.insert name e
  | none => s.erase name

theorem get?_withEntry (s : Store) (name : String) (entry : Option StoredExperiment)
    (k : String) : (s.withEntry name entry).get? k = if k = name then entry else s.get? k := by
  cases entry with
  | some e => exact NameMap.get?_insert s name e k
  | none => exact NameMap.get?_erase s name k

section Perform

variable (config : ServerConfig) (s : Store)

/-- What a step does that is about a name: nothing, or it changes what stands there. -/
def Changes (name : String) (op : Operation) : Prop :=
  (Turn name op (perform config s op).1 (s.get? name) (s.get? name) ∧
    (perform config s op).2 = s) ∨
  ∃ entry, Turn name op (perform config s op).1 (s.get? name) entry ∧
    (perform config s op).2 = s.withEntry name entry

section Changes

variable {config : ServerConfig} {s : Store} {name : String} {op : Operation}

theorem changes_of_refused (why : StoreError) (h : perform config s op = (.error why, s)) :
    Changes config s name op := by
  rw [Changes, h]
  exact .inl ⟨.idle .refused, rfl⟩

theorem changes_of_taken {r : Result} (entry : Option StoredExperiment)
    (h : perform config s op = (r, s.withEntry name entry))
    (turn : Turn name op r (s.get? name) entry) : Changes config s name op := by
  rw [Changes, h]
  exact .inr ⟨entry, turn, rfl⟩

variable (config s name)

theorem changes_put (now : Instant) (experiment : Experiment) :
    Changes config s name (.put now name experiment) := by
  cases hf : s.get? name with
  | none =>
    cases hv : experiment.validate with
    | error why =>
      refine changes_of_refused (.invalid why) ?_
      rw [perform, put, hv]
      rfl
    | ok u =>
      have hp : s.put now name experiment = .ok (⟨true, experiment.kept, now⟩,
          s.insert name { experiment := experiment.kept, lastModified := now }) := by
        rw [put, hv, hf]
        rfl
      refine changes_of_taken (some _) (by rw [perform, hp]; rfl) ?_
      rw [hf]
      exact .created hv
  | some e =>
    rcases put_of_get? hf now experiment with ⟨why, hp⟩ | ⟨valid, same, hp⟩
    · exact changes_of_refused _ (by rw [perform, hp]; rfl)
    · refine changes_of_taken (some _) (by rw [perform, hp]; rfl) ?_
      rw [hf]
      exact .updated valid same

theorem changes_delete : Changes config s name (.delete name) := by
  cases hf : s.get? name with
  | none =>
    refine changes_of_refused (.experimentNotFound name) ?_
    rw [perform, delete, find_of_get?_eq_none hf]
    rfl
  | some e =>
    refine changes_of_taken none (by rw [perform, delete, find_of_get? hf]; rfl) ?_
    rw [hf]
    exact .deleted

theorem changes_dispense : Changes config s name (.dispense name) := by
  cases hf : s.get? name with
  | none =>
    refine changes_of_refused (.experimentNotFound name) ?_
    rw [perform, dispense, find_of_get?_eq_none hf]
    rfl
  | some e =>
    rcases dispense_of_get? hf with ⟨-, hd⟩ | ⟨-, -, hd⟩ | ⟨unspent, free, hd⟩
    · exact changes_of_refused _ (by rw [perform, hd]; rfl)
    · exact changes_of_refused _ (by rw [perform, hd]; rfl)
    · refine changes_of_taken (some _) (by rw [perform, hd]; rfl) ?_
      rw [hf]
      exact .dispensed unspent free

theorem changes_createTrial (assignments : List Assignment) :
    Changes config s name (.createTrial name assignments) := by
  cases hf : s.get? name with
  | none =>
    refine changes_of_refused (.experimentNotFound name) ?_
    rw [perform, createTrial, find_of_get?_eq_none hf]
    rfl
  | some e =>
    rcases createTrial_of_get? hf assignments with ⟨why, hc⟩ | ⟨known, hc⟩
    · exact changes_of_refused _ (by rw [perform, hc]; rfl)
    · refine changes_of_taken (some _) (by rw [perform, hc]; rfl) ?_
      rw [hf]
      exact .proposed known

theorem changes_report (id : String) (outcome : TrialValues) :
    Changes config s name (.report name id outcome) := by
  cases hf : s.get? name with
  | none =>
    refine changes_of_refused (.trialNotFound name id) ?_
    rw [perform, report, hf]
    rfl
  | some e =>
    rcases report_of_get? hf id outcome with ⟨why, hr⟩ | ⟨i, t, active, admitted, hr⟩
    · exact changes_of_refused _ (by rw [perform, hr]; rfl)
    · refine changes_of_taken (some _) (by rw [perform, hr]; rfl) ?_
      rw [hf]
      exact .reported active admitted

end Changes

/-- A step leaves the store alone, or changes what stands under the name that it is about. -/
theorem changes_of_target {op : Operation} {name : String} (h : op.target? = some name) :
    Changes config s name op := by
  cases op with
  | put now n experiment => cases h; exact changes_put config s name now experiment
  | get n => exact .inl ⟨.idle (.looked rfl), rfl⟩
  | delete n => cases h; exact changes_delete config s name
  | list q => cases h
  | dispense n => cases h; exact changes_dispense config s name
  | createTrial n assignments => cases h; exact changes_createTrial config s name assignments
  | listTrials n => exact .inl ⟨.idle (.looked rfl), rfl⟩
  | report n id outcome => cases h; exact changes_report config s name id outcome

/-- Looking changes nothing. -/
theorem perform_of_isRead {op : Operation} (h : op.isRead = true) : (perform config s op).2 = s := by
  cases op <;> first | rfl | cases h

/-- Nothing but the name that a step is about can change in it. -/
theorem get?_perform_of_ne {op : Operation} {name : String} (h : op.target? ≠ some name) :
    (perform config s op).2.get? name = s.get? name := by
  cases ht : op.target? with
  | none =>
    cases op with
    | list q => rfl
    | _ => cases ht
  | some n =>
    have hn : name ≠ n := fun e => h (by rw [ht, e])
    rcases changes_of_target config s ht with ⟨-, hs⟩ | ⟨entry, -, hs⟩
    · rw [hs]
    · rw [hs, get?_withEntry, if_neg hn]

/-- **Every step is a turn for every name.** -/
theorem turn_perform (op : Operation) (name : String) :
    Turn name op (perform config s op).1 (s.get? name) ((perform config s op).2.get? name) := by
  by_cases ht : op.target? = some name
  · rcases changes_of_target config s ht with ⟨turn, hs⟩ | ⟨entry, turn, hs⟩
    · rw [hs]
      exact turn
    · rw [hs, get?_withEntry, if_pos rfl]
      exact turn
  · rw [get?_perform_of_ne config s ht]
    exact .idle (.elsewhere ht)

end Perform

end Store

end TrialProtocol
