import Mathlib.Data.List.Perm.Basic
import TrialProtocol.Proofs.Store.LifeCycle
import TrialProtocol.Server

/-!
# Workers of one experiment

Any number of workers ask the dispenser for trials, report each trial they got, and stop when there
are no more. Their operations interleave in any order, and others may look at the store in between.

* `Crew.Step` is one operation of one worker, or a look at the store. What the worker does next
  follows from the status of the answer.
* `Crew.Balanced` is the invariant: the ids that were reported and the ids that workers hold are
  together the ids of all trials, each once, and a trial waits exactly if somebody holds it.
* `Crew.Safe` follows from it: nobody's report is refused, nobody waits in vain, and in the end the
  whole budget is reported.
-/

namespace TrialProtocol

open Store (Operation Run idText)

/-! ## 1. Workers and their steps -/

/-- What a worker is doing. -/
inductive Worker where
  /-- It asks for a trial. -/
  | idle
  /-- It has a trial that it did not report yet. -/
  | holding (id : Nat)
  /-- It was told that there are no more trials. -/
  | stopped
  deriving DecidableEq, Repr

/-- The trial that a worker holds. -/
def Worker.held? : Worker → Option Nat
  | .holding id => some id
  | _ => none

/-- The trials that workers hold. -/
def heldBy (workers : List Worker) : List Nat :=
  workers.filterMap Worker.held?

/-- A store with the workers of one of its experiments. -/
structure Crew where
  store : Store
  workers : List Worker
  /-- The ids of the trials whose report was taken, in order. -/
  reported : List Nat := []

namespace Crew

/-- A worker asked for a trial: it has one, or is done for good, or tries again. -/
def afterAsking (name : String) (c : Crew) (w : Nat) : Crew :=
  match c.store.dispense name with
  | .ok ((id, _), s) => { c with store := s, workers := c.workers.set w (.holding id) }
  | .error why =>
    if Server.statusOf why = 410 then { c with workers := c.workers.set w .stopped } else c

/-- A worker reported its trial. -/
def afterReport (name : String) (c : Crew) (w id : Nat) (outcome : TrialValues) : Crew :=
  match c.store.report name (idText id) outcome with
  | .ok s => { store := s, workers := c.workers.set w .idle, reported := c.reported ++ [id] }
  | .error _ => { c with workers := c.workers.set w .idle }

/-- One operation of one worker, or a look at the store by anybody. -/
inductive Step (config : ServerConfig) (name : String) (experiment : Experiment) :
    Crew → Crew → Prop where
  | ask {c : Crew} (w : Nat) (idle : c.workers[w]? = some .idle) :
      Step config name experiment c (c.afterAsking name w)
  | report {c : Crew} (w id : Nat) (outcome : TrialValues)
      (holds : c.workers[w]? = some (.holding id)) (admitted : experiment.Admits outcome) :
      Step config name experiment c (c.afterReport name w id outcome)
  | look {c : Crew} (op : Operation) (read : op.isRead = true) :
      Step config name experiment c { c with store := (Store.perform config c.store op).2 }

/-- What a crew can come to, step by step. -/
inductive Reachable (config : ServerConfig) (name : String) (experiment : Experiment)
    (start : Crew) : Crew → Prop where
  | start : Reachable config name experiment start start
  | step {c c' : Crew} (before : Reachable config name experiment start c)
      (step : Step config name experiment c c') : Reachable config name experiment start c'

/-- The next operation of a worker is answered that it has to wait. -/
def Waits (name : String) (experiment : Experiment) (c : Crew) : Worker → Prop
  | .idle => ∃ why, c.store.dispense name = .error why ∧ Server.statusOf why = 503
  | .holding id => ∃ outcome why, experiment.Admits outcome ∧
      c.store.report name (idText id) outcome = .error why ∧ Server.statusOf why = 503
  | .stopped => False

/-! ## 2. Changing one worker -/

section Held

variable {workers : List Worker} {w : Nat} {x y : Worker}

/-- The held trials are the one of a worker and those of the others. -/
theorem heldBy_perm (h : workers[w]? = some x) :
    (heldBy workers).Perm (x.held?.toList ++ heldBy (workers.eraseIdx w)) := by
  obtain ⟨hw, hx⟩ := List.getElem?_eq_some_iff.mp h
  have hp := (List.getElem_cons_eraseIdx_perm hw).symm.filterMap Worker.held?
  rw [hx] at hp
  cases hh : x.held? <;> simpa [heldBy, List.filterMap_cons, hh] using hp

theorem heldBy_set_perm (h : workers[w]? = some x) (y : Worker) :
    (heldBy (workers.set w y)).Perm (y.held?.toList ++ heldBy (workers.eraseIdx w)) := by
  obtain ⟨hw, -⟩ := List.getElem?_eq_some_iff.mp h
  have hy : (workers.set w y)[w]? = some y := by simp [hw]
  have hp := heldBy_perm hy
  rwa [List.eraseIdx_set_eq] at hp

theorem mem_heldBy {id : Nat} : id ∈ heldBy workers ↔ .holding id ∈ workers := by
  rw [heldBy, List.mem_filterMap]
  constructor
  · rintro ⟨x, hx, held⟩
    cases x with
    | holding id' => cases held; exact hx
    | _ => cases held
  · exact fun h => ⟨_, h, rfl⟩

theorem heldBy_eq_nil (h : ∀ id, .holding id ∉ workers) : heldBy workers = [] :=
  List.eq_nil_iff_forall_not_mem.mpr fun id hid => h id (mem_heldBy.mp hid)

/-- Workers who just came hold nothing. -/
theorem heldBy_replicate_idle (n : Nat) : heldBy (List.replicate n .idle) = [] :=
  heldBy_eq_nil fun _ h => by cases (List.mem_replicate.mp h).2

/-- Two workers hold one trial only if the trial is held twice. -/
theorem eq_of_nodup_heldBy (nodup : (heldBy workers).Nodup) {v id : Nat}
    (hv : workers[v]? = some (.holding id)) (hw : workers[w]? = some (.holding id)) : v = w := by
  refine Classical.byContradiction fun hne => ?_
  have hmem : Worker.holding id ∈ workers.eraseIdx v :=
    List.mem_eraseIdx_iff_getElem?.mpr ⟨w, fun e => hne e.symm, hw⟩
  have hid : id ∈ heldBy (workers.eraseIdx v) := mem_heldBy.mpr hmem
  have := (heldBy_perm hv).nodup_iff.mp nodup
  exact (List.nodup_cons.mp this).1 hid

/-- A worker with a trial hands it back, and the others keep theirs. -/
theorem heldBy_perm_of_holding {id : Nat} (h : workers[w]? = some (.holding id)) :
    (heldBy workers).Perm (id :: heldBy (workers.set w .idle)) :=
  (heldBy_perm h).trans ((heldBy_set_perm h .idle).symm.cons id)

/-- A worker without a trial gets one, or becomes another without. -/
theorem heldBy_set_perm_of_idle (h : workers[w]? = some .idle) (y : Worker) :
    (heldBy (workers.set w y)).Perm (y.held?.toList ++ heldBy workers) :=
  (heldBy_set_perm h y).trans ((heldBy_perm h).symm.append_left y.held?.toList)

end Held

/-! ## 3. The invariant -/

/-- **The workers' books balance**: every trial was reported once, or is held by one worker and waits
    for that worker's report. -/
structure Balanced (name : String) (experiment : Experiment) (c : Crew) (e : StoredExperiment) :
    Prop where
  stored : c.store.get? name = some e
  same : e.experiment = experiment.kept
  ids : (c.reported ++ heldBy c.workers).Perm (List.range' 1 e.trials.length)
  waiting : ∀ (i : Nat) (t : StoredTrial), e.trials[i]? = some t →
    (t.status = .active ↔ i + 1 ∈ heldBy c.workers)
  active : e.activeTrials = (heldBy c.workers).length
  status : ∀ t ∈ e.trials, t.status = .active ∨ t.status = .completed ∨ t.status = .failed
  budget : e.trials.length ≤ experiment.optimization.experimentBudget.toNat
  parallel : experiment.optimization.parallelTrials ≠ 0 →
    e.activeTrials ≤ experiment.optimization.parallelTrials.toNat
  stopped : .stopped ∈ c.workers →
    experiment.optimization.experimentBudget.toNat ≤ e.trials.length
  staffed : c.workers ≠ []

namespace Balanced

variable {name : String} {experiment : Experiment} {c : Crew} {e : StoredExperiment}

/-- A fresh experiment and workers who just came. -/
theorem fresh {s : Store} {now : Instant} {n : Nat} (hn : 0 < n)
    (h : s.get? name = some { experiment := experiment.kept, lastModified := now }) :
    Balanced name experiment { store := s, workers := List.replicate n .idle }
      { experiment := experiment.kept, lastModified := now } where
  stored := h
  same := rfl
  ids := by rw [heldBy_replicate_idle]; exact .nil
  waiting i t ht := by simp at ht
  active := by rw [heldBy_replicate_idle]; rfl
  status t ht := by cases ht
  budget := Nat.zero_le _
  parallel _ := Nat.zero_le _
  stopped h := by simp at h
  staffed := by simp; omega

/-- No trial is held twice. -/
theorem nodup_heldBy (h : c.Balanced name experiment e) : (heldBy c.workers).Nodup :=
  (List.nodup_append.mp (h.ids.nodup_iff.mpr List.nodup_range')).2.1

/-- The books stay balanced if a worker becomes another without a trial. -/
theorem set_idle (h : c.Balanced name experiment e) {w : Nat} (idle : c.workers[w]? = some .idle)
    {y : Worker} (hy : y.held? = none)
    (stopped : y = .stopped → experiment.optimization.experimentBudget.toNat ≤ e.trials.length) :
    Balanced name experiment { c with workers := c.workers.set w y } e where
  stored := h.stored
  same := h.same
  ids := by
    have hp := heldBy_set_perm_of_idle idle y
    rw [hy] at hp
    exact (hp.append_left c.reported).trans h.ids
  waiting i t ht := by
    have hp := heldBy_set_perm_of_idle idle y
    rw [hy] at hp
    exact (h.waiting i t ht).trans hp.mem_iff.symm
  active := by
    have hp := heldBy_set_perm_of_idle idle y
    rw [hy] at hp
    exact h.active.trans hp.length_eq.symm
  status := h.status
  budget := h.budget
  parallel := h.parallel
  stopped hm := by
    rcases List.mem_or_eq_of_mem_set hm with hm | hm
    · exact h.stopped hm
    · exact stopped hm.symm
  staffed := by simpa using h.staffed

/-- A dispensed trial has an id that nobody had before. -/
theorem dispensed (h : c.Balanced name experiment e) {w : Nat} (idle : c.workers[w]? = some .idle)
    {s : Store} {assignments : List Assignment}
    (stored : s.get? name = some (e.addTrial assignments))
    (budget : e.trials.length < experiment.optimization.experimentBudget.toNat)
    (parallel : experiment.optimization.parallelTrials ≠ 0 →
      e.activeTrials < experiment.optimization.parallelTrials.toNat) :
    Balanced name experiment
      { c with store := s, workers := c.workers.set w (.holding (e.trials.length + 1)) }
      (e.addTrial assignments) := by
  have hp : (heldBy (c.workers.set w (.holding (e.trials.length + 1)))).Perm
      ((e.trials.length + 1) :: heldBy c.workers) := heldBy_set_perm_of_idle idle _
  have hlen := e.length_addTrial assignments
  have hact := e.activeTrials_addTrial assignments
  constructor
  case stored => exact stored
  case same => exact h.same
  case ids =>
    rw [hlen, List.range'_1_concat, Nat.add_comm 1]
    have hm : (c.reported ++ heldBy (c.workers.set w (.holding (e.trials.length + 1)))).Perm
        ((e.trials.length + 1) :: (c.reported ++ heldBy c.workers)) :=
      (hp.append_left c.reported).trans List.perm_middle
    exact (hm.trans (h.ids.cons _)).trans (List.perm_append_singleton _ _).symm
  case waiting =>
    intro i t ht
    rw [hp.mem_iff, List.mem_cons]
    rw [StoredExperiment.getElem?_addTrial] at ht
    by_cases hi : i = e.trials.length
    · rw [if_pos hi] at ht
      rw [← Option.some.inj ht, hi]
      exact ⟨fun _ => .inl rfl, fun _ => rfl⟩
    · rw [if_neg hi] at ht
      rw [h.waiting i t ht]
      constructor
      · exact .inr
      · rintro (he | hm)
        · exact absurd (Nat.succ.inj he) hi
        · exact hm
  case active => rw [hact, h.active, hp.length_eq, List.length_cons]
  case status =>
    intro t ht
    rcases e.mem_addTrial ht with ht | rfl
    · exact h.status t ht
    · exact .inl rfl
  case budget => omega
  case parallel =>
    intro hP
    have := parallel hP
    omega
  case stopped =>
    intro hm
    rcases List.mem_or_eq_of_mem_set hm with hm | hm
    · have := h.stopped hm
      omega
    · cases hm
  case staffed => simpa using h.staffed

/-- The trial that a worker holds is there and waits for its report. -/
theorem held (h : c.Balanced name experiment e) {w id : Nat}
    (holds : c.workers[w]? = some (.holding id)) :
    ∃ i t, id = i + 1 ∧ e.trials[i]? = some t ∧ t.status = .active ∧
      Store.activeTrial? e (idText id) = some (i, t) := by
  have hm : id ∈ heldBy c.workers := mem_heldBy.mpr (List.mem_of_getElem? holds)
  have hr : id ∈ List.range' 1 e.trials.length := h.ids.mem_iff.mp (List.mem_append_right _ hm)
  obtain ⟨hpos, hlt⟩ := List.mem_range'_1.mp hr
  obtain ⟨i, rfl⟩ : ∃ i, id = i + 1 := ⟨id - 1, by omega⟩
  have hi : i < e.trials.length := by omega
  have ht : e.trials[i]? = some e.trials[i] := List.getElem?_eq_getElem hi
  have active := (h.waiting i _ ht).mpr hm
  have hword : i + 1 ≤ Text.maxWord64 := by
    have hb := h.budget
    have hs := experiment.optimization.experimentBudget.toNat_lt
    rw [Text.maxWord64]
    omega
  exact ⟨i, _, rfl, ht, active,
    Store.activeTrial?_eq_some.mpr ⟨Store.trialIndex?_idText hword, ht, active⟩⟩

/-- The experiment admits what it admitted when it was created. -/
theorem admits (h : c.Balanced name experiment e) {outcome : TrialValues}
    (admitted : experiment.Admits outcome) : e.experiment.Admits outcome := by
  rw [h.same]
  exact admitted

/-- A reported trial passes from its worker to the reports. -/
theorem reported (h : c.Balanced name experiment e) {w i : Nat} {t : StoredTrial}
    (holds : c.workers[w]? = some (.holding (i + 1))) (ht : e.trials[i]? = some t)
    (active : t.status = .active) (outcome : TrialValues) {s : Store}
    (stored : s.get? name = some (e.settle i t outcome)) :
    Balanced name experiment
      { store := s, workers := c.workers.set w .idle, reported := c.reported ++ [i + 1] }
      (e.settle i t outcome) := by
  have hp := heldBy_perm_of_holding holds
  have hlen := e.length_settle i t outcome
  have hact := e.activeTrials_settle ht active outcome
  have hgone : i + 1 ∉ heldBy (c.workers.set w .idle) :=
    (List.nodup_cons.mp (hp.nodup_iff.mp h.nodup_heldBy)).1
  constructor
  case stored => exact stored
  case same => exact h.same
  case ids =>
    rw [hlen, List.append_assoc]
    exact (hp.symm.append_left c.reported).trans h.ids
  case waiting =>
    intro j u hu
    rw [StoredExperiment.getElem?_settle e ht] at hu
    by_cases hij : i = j
    · subst hij
      rw [if_pos rfl] at hu
      rw [← Option.some.inj hu]
      exact ⟨fun ha => absurd ha (t.status_settled_ne outcome), fun hm => absurd hm hgone⟩
    · rw [if_neg hij] at hu
      rw [h.waiting j u hu, hp.mem_iff, List.mem_cons]
      constructor
      · rintro (he | hm)
        · omega
        · exact hm
      · exact .inr
  case active =>
    have hl : _ = (heldBy (c.workers.set w .idle)).length + 1 := hp.length_eq
    have ha := h.active
    exact Nat.succ.inj (hact.trans (ha.trans hl))
  case status =>
    intro u hu
    rcases List.mem_or_eq_of_mem_set hu with hu | hu
    · exact h.status u hu
    · subst hu
      exact .inr (t.status_settled outcome)
  case budget =>
    rw [hlen]
    exact h.budget
  case parallel =>
    intro hP
    have := h.parallel hP
    omega
  case stopped =>
    intro hm
    rw [hlen]
    rcases List.mem_or_eq_of_mem_set hm with hm | hm
    · exact h.stopped hm
    · cases hm
  case staffed => simpa using h.staffed

/-! ## 4. One step -/

/-- Asking answers with a trial, or that the budget is spent, or to wait. -/
theorem afterAsking (h : c.Balanced name experiment e)
    (limited : experiment.optimization.experimentBudget ≠ 0) {w : Nat}
    (idle : c.workers[w]? = some .idle) :
    ∃ e', Balanced name experiment (c.afterAsking name w) e' := by
  unfold Crew.afterAsking
  rcases Store.dispense_of_get? h.stored with ⟨spent, hd⟩ | ⟨-, -, hd⟩ | ⟨unspent, free, hd⟩
  · rw [hd]
    refine ⟨e, h.set_idle idle rfl fun _ => ?_⟩
    have budget := spent.2
    rwa [h.same] at budget
  · rw [hd]
    exact ⟨e, h⟩
  · rw [hd]
    have stored : (c.store.insert name (e.addTrial e.lowerBounds)).get? name =
        some (e.addTrial e.lowerBounds) := by rw [NameMap.get?_insert, if_pos rfl]
    unfold StoredExperiment.IsSpent at unspent
    unfold StoredExperiment.IsFull at free
    rw [h.same] at unspent free
    refine ⟨_, h.dispensed idle stored ?_ fun hP => ?_⟩
    · exact Nat.lt_of_not_le fun le => unspent ⟨limited, le⟩
    · exact Nat.lt_of_not_le fun le => free ⟨hP, le⟩

/-- **A report of a held trial is taken.** -/
theorem report_ok (h : c.Balanced name experiment e) {w id : Nat}
    (holds : c.workers[w]? = some (.holding id)) {outcome : TrialValues}
    (admitted : experiment.Admits outcome) :
    ∃ s', c.store.report name (idText id) outcome = .ok s' := by
  obtain ⟨i, t, rfl, -, -, active⟩ := h.held holds
  exact ⟨_, Store.report_of_active h.stored active (h.admits admitted)⟩

theorem afterReport (h : c.Balanced name experiment e) {w id : Nat}
    (holds : c.workers[w]? = some (.holding id)) {outcome : TrialValues}
    (admitted : experiment.Admits outcome) :
    ∃ e', Balanced name experiment (c.afterReport name w id outcome) e' := by
  obtain ⟨i, t, rfl, ht, waits, active⟩ := h.held holds
  have hr := Store.report_of_active h.stored active (h.admits admitted)
  unfold Crew.afterReport
  rw [hr]
  refine ⟨_, h.reported holds ht waits outcome ?_⟩
  rw [NameMap.get?_insert, if_pos rfl]

/-- **Every step leaves the books balanced.** -/
theorem step {config : ServerConfig} {c' : Crew} (h : c.Balanced name experiment e)
    (limited : experiment.optimization.experimentBudget ≠ 0)
    (step : Step config name experiment c c') : ∃ e', c'.Balanced name experiment e' := by
  cases step with
  | ask w idle => exact h.afterAsking limited idle
  | report w id outcome holds admitted => exact h.afterReport holds admitted
  | look op read =>
    rw [Store.perform_of_isRead config c.store read]
    exact ⟨e, h⟩

/-! ## 5. What balanced books say -/

/-- Somebody who did not stop can go on without waiting: one who holds a trial, or, if nobody does,
    any other. -/
theorem exists_not_waits (h : c.Balanced name experiment e) {x : Worker} (hx : x ∈ c.workers)
    (works : x ≠ .stopped) :
    ∃ y ∈ c.workers, y ≠ .stopped ∧ ¬Waits name experiment c y := by
  by_cases holders : ∃ id, .holding id ∈ c.workers
  · obtain ⟨id, hm⟩ := holders
    refine ⟨.holding id, hm, by simp, ?_⟩
    rintro ⟨outcome, why, admitted, hr, -⟩
    obtain ⟨w, holds⟩ := List.mem_iff_getElem?.mp hm
    obtain ⟨s', ok⟩ := h.report_ok holds admitted
    rw [ok] at hr
    cases hr
  · have hidle : x = .idle := by
      cases x with
      | idle => rfl
      | holding id => exact absurd ⟨id, hx⟩ holders
      | stopped => exact absurd rfl works
    subst hidle
    refine ⟨.idle, hx, works, ?_⟩
    rintro ⟨why, hd, hs⟩
    have none : heldBy c.workers = [] := heldBy_eq_nil fun id hid => holders ⟨id, hid⟩
    have quiet : e.activeTrials = 0 := by rw [h.active, none]; rfl
    rcases Store.dispense_of_get? h.stored with ⟨-, hd'⟩ | ⟨-, full, -⟩ | ⟨-, -, hd'⟩
    · rw [hd'] at hd
      cases hd
      cases hs
    · have hP := full.2
      rw [quiet] at hP
      exact full.1 (UInt32.toNat_inj.mp (Nat.le_zero.mp hP))
    · rw [hd'] at hd
      cases hd

/-- **When everybody has stopped, the whole budget has been tried and reported**, each trial once. -/
theorem finished (h : c.Balanced name experiment e) (done : ∀ x ∈ c.workers, x = .stopped) :
    e.trials.length = experiment.optimization.experimentBudget.toNat ∧
      (∀ t ∈ e.trials, t.status = .completed ∨ t.status = .failed) ∧
      c.reported.Perm (List.range' 1 experiment.optimization.experimentBudget.toNat) := by
  obtain ⟨x, hx⟩ := List.exists_mem_of_ne_nil _ h.staffed
  have hstop : .stopped ∈ c.workers := by
    rw [← done x hx]
    exact hx
  have hlen := Nat.le_antisymm h.budget (h.stopped hstop)
  have none : heldBy c.workers = [] := heldBy_eq_nil fun _ hm => by cases done _ hm
  refine ⟨hlen, fun t ht => ?_, ?_⟩
  · rcases h.status t ht with active | settled
    · obtain ⟨i, hi⟩ := List.mem_iff_getElem?.mp ht
      have hm := (h.waiting i t hi).mp active
      rw [none] at hm
      cases hm
    · exact settled
  · have hids := h.ids
    rwa [none, List.append_nil, hlen] at hids

end Balanced

/-! ## 6. Every interleaving -/

/-- What every state of the workers guarantees. -/
structure Safe (name : String) (experiment : Experiment) (c : Crew) (e : StoredExperiment) : Prop where
  stored : c.store.get? name = some e
  /-- No two workers hold one trial. -/
  exclusive : ∀ v w id : Nat, c.workers[v]? = some (.holding id) →
    c.workers[w]? = some (.holding id) → v = w
  active : e.activeTrials = c.workers.countP (·.held?.isSome)
  parallel : experiment.optimization.parallelTrials ≠ 0 →
    e.activeTrials ≤ experiment.optimization.parallelTrials.toNat
  /-- Nobody's report is refused. -/
  accepted : ∀ (w id : Nat) (outcome : TrialValues), c.workers[w]? = some (.holding id) →
    experiment.Admits outcome → ∃ s', c.store.report name (idText id) outcome = .ok s'
  /-- Not everybody waits who still works. -/
  progress : (∃ x ∈ c.workers, x ≠ .stopped) →
    ∃ x ∈ c.workers, x ≠ .stopped ∧ ¬Waits name experiment c x
  /-- In the end every trial of the budget has been reported once. -/
  finished : (∀ x ∈ c.workers, x = .stopped) →
    e.trials.length = experiment.optimization.experimentBudget.toNat ∧
      (∀ t ∈ e.trials, t.status = .completed ∨ t.status = .failed) ∧
      c.reported.Perm (List.range' 1 experiment.optimization.experimentBudget.toNat)

theorem Balanced.safe {name : String} {experiment : Experiment} {c : Crew} {e : StoredExperiment}
    (h : c.Balanced name experiment e) : Safe name experiment c e where
  stored := h.stored
  exclusive v w id hv hw := eq_of_nodup_heldBy h.nodup_heldBy hv hw
  active := by rw [h.active, heldBy, List.length_filterMap_eq_countP]
  parallel := h.parallel
  accepted w id outcome holds admitted := h.report_ok holds admitted
  progress := by
    rintro ⟨x, hx, works⟩
    exact h.exists_not_waits hx works
  finished := h.finished

section Interleaving

variable {config : ServerConfig} {s₀ s : Store} {now : Instant} {name : String}
  {experiment : Experiment} {stored : Store.Stored} {n : Nat} {c : Crew}

theorem balanced_of_reachable (put : s₀.put now name experiment = .ok (stored, s))
    (created : stored.created = true)
    (limited : experiment.optimization.experimentBudget ≠ 0) (hn : 0 < n)
    (run : Reachable config name experiment ⟨s, List.replicate n .idle, []⟩ c) :
    ∃ e, c.Balanced name experiment e := by
  induction run with
  | start => exact ⟨_, .fresh hn (Store.get?_of_created put created)⟩
  | step run step ih =>
    obtain ⟨e, h⟩ := ih
    exact h.step limited step

/-- **Workers of a new experiment with a budget are safe in every interleaving.** -/
theorem safe_of_reachable (put : s₀.put now name experiment = .ok (stored, s))
    (created : stored.created = true)
    (limited : experiment.optimization.experimentBudget ≠ 0) (hn : 0 < n)
    (run : Reachable config name experiment ⟨s, List.replicate n .idle, []⟩ c) :
    ∃ e, Safe name experiment c e := by
  obtain ⟨e, h⟩ := balanced_of_reachable put created limited hn run
  exact ⟨e, h.safe⟩

/-- Two workers of two trials, one at a time: the second worker waits until the first one has
    reported a failure, and both are told to stop. -/
theorem safe_of_reachable_sample :
    ∃ stored s c, Store.put .empty ⟨0, false⟩ "sample" .sample = .ok (stored, s) ∧
      stored.created = true ∧
      Reachable {} "sample" .sample ⟨s, List.replicate 2 .idle, []⟩ c ∧
      c.workers = [.stopped, .stopped] ∧ ∃ e, Safe "sample" .sample c e := by
  let s : Store := NameMap.insert .empty "sample"
    { experiment := Experiment.sample.kept, lastModified := ⟨0, false⟩ }
  have put : Store.put .empty ⟨0, false⟩ "sample" .sample =
    .ok (⟨true, Experiment.sample.kept, ⟨0, false⟩⟩, s) := rfl
  let one : TrialValues := { values := [{ metricName := "cost", value := ⟨0x3ff0000000000000⟩ }] }
  have here : Reachable {} "sample" .sample ⟨s, List.replicate 2 .idle, []⟩ _ :=
    .start
  have run := here
    |>.step (.ask 0 rfl)
    |>.step (.ask 1 rfl)
    |>.step (.look (.listTrials "sample") rfl)
    |>.step (.report 0 1 { failed := true } rfl (.inl rfl))
    |>.step (.ask 1 rfl)
    |>.step (.report 1 2 one rfl (.inr (by decide)))
    |>.step (.ask 1 rfl)
    |>.step (.ask 0 rfl)
  exact ⟨_, s, _, put, rfl, run, rfl, safe_of_reachable put rfl (by decide) (by decide) run⟩

end Interleaving

end Crew

end TrialProtocol
