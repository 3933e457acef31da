import TrialProtocol.Proofs.Store.Invariant
import TrialProtocol.Proofs.Store.LifeCycle

/-!
# The limits of the dispenser

An experiment may have so many trials, and so many of them may run at a time. The dispenser looks at
all trials before it gives one out, but workers propose trials of their own without being asked, and
so the plain numbers may pass both limits.

* `StoredExperiment.IsRationed` is the invariant: of the trials that were *dispensed*, there are no
  more than the budget, and no more of them wait for a report than may run at a time.
* It rests on the dispenser counting too much, never too little: what it compares with the limits are
  all trials, and a report only ever takes one away from those that wait.
* Right after a trial was dispensed, all trials are within both limits, whoever added them.
-/

namespace TrialProtocol

namespace Store

/-! ## 1. Steps that touch the limits -/

/-- Whether a step gives an experiment another optimization than the given one. -/
def retunes (name : String) (o : Optimization) : Event → Bool
  | (.put _ n experiment, .ok _) => n == name && experiment.optimization != o
  | _ => false

/-- Whether a step ends the time in which an experiment has the given limits: it deletes the
    experiment, or gives it another optimization. -/
def disturbs (name : String) (o : Optimization) (event : Event) : Bool :=
  removes name event || retunes name o event

theorem removes_of_disturbs {name : String} {o : Optimization} {event : Event}
    (h : disturbs name o event = false) : removes name event = false :=
  (Bool.or_eq_false_iff.mp h).1

/-- A step that does not disturb the limits keeps them. -/
theorem Turn.optimization {name : String} {op : Operation} {r : Result} {e e' : StoredExperiment}
    (turn : Turn name op r (some e) (some e'))
    (steady : disturbs name e.experiment.optimization (op, r) = false) :
    e'.experiment.optimization = e.experiment.optimization := by
  cases turn with
  | @updated now experiment e valid =>
    have same : retunes name e.experiment.optimization
        (.put now name experiment, .ok (.stored ⟨false, experiment.kept, now⟩)) = false :=
      (Bool.or_eq_false_iff.mp steady).2
    show experiment.optimization = e.experiment.optimization
    simpa [retunes] using same
  | _ => rfl

/-- **An experiment whose limits nobody disturbs evolves**, and keeps them. -/
theorem Run.steady {config : ServerConfig} {s t : Store} {events : List Event}
    (run : Run config s events t) {name : String} {e : StoredExperiment}
    (steady : ∀ event ∈ events, disturbs name e.experiment.optimization event = false)
    (h : s.get? name = some e) : ∃ e', t.get? name = some e' ∧ e.Evolution name events e' ∧
      e'.experiment.optimization = e.experiment.optimization := by
  refine run.preserves (P := fun events e' => e.Evolution name events e' ∧
      e'.experiment.optimization = e.experiment.optimization) (fun _ => removes_of_disturbs)
    (fun {before op r e' e''} calm turn past => ?_) steady h ⟨.refl e, rfl⟩
  obtain ⟨evolved, kept⟩ := past
  obtain ⟨_, he, future⟩ := StoredExperiment.Evolution.ofTurn turn (removes_of_disturbs calm)
  cases he
  -- a step is held against the limits at the start, which are still those of the experiment
  rw [← kept] at calm
  exact ⟨evolved.trans future, (turn.optimization calm).trans kept⟩

end Store

open Store (Origin Turn Event Run disturbs origins originsAfter)

/-! ## 2. Counting dispensed trials -/

/-- A list of pairs has no more entries of a kind if one of them stops being of that kind. -/
theorem countP_zip_set_le {α β : Type} {p : α × β → Bool} {y : β}
    (h : ∀ x, p (x, y) = false) (xs : List α) (ys : List β) (i : Nat) :
    (xs.zip (ys.set i y)).countP p ≤ (xs.zip ys).countP p := by
  induction xs generalizing ys i with
  | nil => exact Nat.le_refl _
  | cons x xs ih =>
    cases ys with
    | nil => exact Nat.le_refl _
    | cons z ys =>
      cases i with
      | zero =>
        rw [List.set_cons_zero, List.zip_cons_cons, List.zip_cons_cons, List.countP_cons, h x,
          List.countP_cons]
        exact Nat.le_add_right _ _
      | succ i =>
        rw [List.set_cons_succ, List.zip_cons_cons, List.zip_cons_cons, List.countP_cons,
          List.countP_cons]
        exact Nat.add_le_add_right (ih ys i) _

/-- Whether a trial was dispensed and waits for its report. -/
def Store.isOut (trial : Origin × StoredTrial) : Bool :=
  trial.1 == .dispensed && trial.2.status == .active

namespace StoredExperiment

/-- The number of trials that were dispensed and wait for a report. -/
def dispensedActive (e : StoredExperiment) (os : List Origin) : Nat :=
  (os.zip e.trials).countP Store.isOut

variable {e : StoredExperiment} {os : List Origin}

section Origins

variable (length : os.length = e.trials.length)

include length

/-- A new trial comes with its origin. -/
theorem length_origins_addTrial (assignments : List Assignment) (o : Origin) :
    (os ++ [o]).length = (e.addTrial assignments).trials.length := by
  rw [List.length_append, length_addTrial, length, List.length_singleton]

/-- No more dispensed trials wait than trials do. -/
theorem dispensedActive_le :
    e.dispensedActive os ≤ e.activeTrials := by
  have hsnd : (os.zip e.trials).map Prod.snd = e.trials :=
    List.map_snd_zip (Nat.le_of_eq length.symm)
  calc e.dispensedActive os
      ≤ (os.zip e.trials).countP ((·.status == .active) ∘ Prod.snd) :=
        List.countP_mono_left fun trial _ out => (Bool.and_eq_true_iff.mp out).2
    _ = e.activeTrials := by rw [← List.countP_map, hsnd, activeTrials]

/-- A new trial waits, and counts if it was dispensed. -/
theorem dispensedActive_addTrial (assignments : List Assignment) (o : Origin) :
    (e.addTrial assignments).dispensedActive (os ++ [o]) =
      e.dispensedActive os + [o].count .dispensed := by
  rw [dispensedActive, addTrial, List.zip_append length, List.countP_append]
  cases o <;> rfl

end Origins

/-- A report takes away at most one. -/
theorem dispensedActive_settle (i : Nat) (t : StoredTrial) (outcome : TrialValues) :
    (e.settle i t outcome).dispensedActive os ≤ e.dispensedActive os := by
  refine countP_zip_set_le (fun o => ?_) os e.trials i
  have settled : ((t.settled outcome).status == .active) = false := by
    simpa using t.status_settled_ne outcome
  rw [Store.isOut, settled, Bool.and_false]

end StoredExperiment

/-! ## 3. The invariant -/

/-- **What the dispenser gave out stays within the limits**, given how the trials came about. -/
structure StoredExperiment.IsRationed (o : Optimization) (e : StoredExperiment)
    (os : List Origin) : Prop where
  optimization : e.experiment.optimization = o
  origins_length : os.length = e.trials.length
  budget : o.experimentBudget ≠ 0 → os.count .dispensed ≤ o.experimentBudget.toNat
  parallel : o.parallelTrials ≠ 0 → e.dispensedActive os ≤ o.parallelTrials.toNat

/-- All trials are within the limits, however they came about. -/
structure StoredExperiment.IsWithin (o : Optimization) (e : StoredExperiment) : Prop where
  budget : o.experimentBudget ≠ 0 → e.trials.length ≤ o.experimentBudget.toNat
  parallel : o.parallelTrials ≠ 0 → e.activeTrials ≤ o.parallelTrials.toNat

/-- **The dispenser keeps all trials within the limits**: it gives out none if one was reached. -/
theorem StoredExperiment.isWithin_addTrial {e : StoredExperiment} (unspent : ¬e.IsSpent)
    (free : ¬e.IsFull) (assignments : List Assignment) :
    (e.addTrial assignments).IsWithin e.experiment.optimization where
  budget limited := by
    rw [length_addTrial]
    exact Nat.lt_of_not_le fun le => unspent ⟨limited, le⟩
  parallel limited := by
    rw [activeTrials_addTrial]
    exact Nat.lt_of_not_le fun le => free ⟨limited, le⟩

namespace StoredExperiment.IsRationed

variable {o : Optimization} {e : StoredExperiment} {os : List Origin}

/-- Another experiment with the same limits and the same trials is rationed as well. -/
theorem of_trials_eq (h : e.IsRationed o os) {e' : StoredExperiment}
    (optimization : e'.experiment.optimization = o) (trials : e'.trials = e.trials) :
    e'.IsRationed o os where
  optimization := optimization
  origins_length := h.origins_length.trans (congrArg List.length trials.symm)
  budget := h.budget
  parallel limited := by
    rw [dispensedActive, trials]
    exact h.parallel limited

/-- A dispensed trial counts, and all trials together are within the limits. -/
theorem dispense (h : e.IsRationed o os) (unspent : ¬e.IsSpent) (free : ¬e.IsFull)
    (assignments : List Assignment) :
    (e.addTrial assignments).IsRationed o (os ++ [.dispensed]) := by
  have within := isWithin_addTrial unspent free assignments
  rw [h.optimization] at within
  have length := length_origins_addTrial h.origins_length assignments .dispensed
  constructor
  case optimization => exact h.optimization
  case origins_length => exact length
  case budget =>
    -- all trials together are counted against the budget, the proposed ones too
    intro limited
    calc (os ++ [Origin.dispensed]).count Origin.dispensed
        ≤ (os ++ [Origin.dispensed]).length := List.count_le_length
      _ = (e.addTrial assignments).trials.length := length
      _ ≤ o.experimentBudget.toNat := within.budget limited
  case parallel =>
    intro limited
    exact Nat.le_trans (dispensedActive_le length) (within.parallel limited)

/-- A proposed trial does not count. -/
theorem propose (h : e.IsRationed o os) (assignments : List Assignment) :
    (e.addTrial assignments).IsRationed o (os ++ [.proposed]) where
  optimization := h.optimization
  origins_length := length_origins_addTrial h.origins_length assignments .proposed
  budget limited := by
    rw [List.count_append]
    exact h.budget limited
  parallel limited := by
    rw [dispensedActive_addTrial h.origins_length]
    exact h.parallel limited

/-- A report adds nothing. -/
theorem settle (h : e.IsRationed o os) (i : Nat) (t : StoredTrial) (outcome : TrialValues) :
    (e.settle i t outcome).IsRationed o os where
  optimization := h.optimization
  origins_length := by rw [length_settle, h.origins_length]
  budget := h.budget
  parallel limited := Nat.le_trans (dispensedActive_settle i t outcome) (h.parallel limited)

/-- **Every step that leaves the limits alone keeps to them.** -/
theorem turn {name : String} {op : Store.Operation} {r : Store.Result} {e' : StoredExperiment}
    (h : e.IsRationed o os) (turn : Turn name op r (some e) (some e'))
    (steady : disturbs name o (op, r) = false) :
    e'.IsRationed o (originsAfter name os (op, r)) := by
  have optimization : e'.experiment.optimization = o := by
    rw [← h.optimization] at steady ⊢
    exact turn.optimization steady
  cases turn with
  | idle idle =>
    rw [Store.originsAfter_of_idle idle]
    exact h
  | updated valid same => exact h.of_trials_eq optimization rfl
  | dispensed unspent free =>
    rw [Store.originsAfter_dispensed]
    exact h.dispense unspent free _
  | proposed known =>
    rw [Store.originsAfter_proposed]
    exact h.propose _
  | reported active admitted => exact h.settle _ _ _

end StoredExperiment.IsRationed

/-! ## 4. Whole runs -/

namespace Store

variable {config : ServerConfig}

/-- What the dispenser gives out is in the store afterwards, and all trials are within the limits. -/
theorem exists_isWithin_of_dispense {s s' : Store} {name : String} {e : StoredExperiment}
    {given : Nat × List Assignment} (h : s.get? name = some e)
    (dispensed : s.dispense name = .ok (given, s')) :
    ∃ e', s'.get? name = some e' ∧ e'.IsWithin e.experiment.optimization := by
  rcases dispense_of_get? h with ⟨-, hd⟩ | ⟨-, -, hd⟩ | ⟨unspent, free, hd⟩
  · rw [hd] at dispensed
    cases dispensed
  · rw [hd] at dispensed
    cases dispensed
  · rw [hd] at dispensed
    cases dispensed
    exact ⟨_, by rw [NameMap.get?_insert, if_pos rfl],
      StoredExperiment.isWithin_addTrial unspent free _⟩

/-- **The dispenser never exceeds the limits of an experiment**, from its creation on, as long as
    nobody deletes it or changes them: in every state of every run the dispensed trials are within
    both limits, and all trials are right after one was dispensed. -/
theorem dispensed_isRationed {s₀ s₁ s : Store} {now : Instant} {name : String}
    {experiment : Experiment} {stored : Stored}
    (put : s₀.put now name experiment = .ok (stored, s₁)) (created : stored.created = true)
    {events : List Event} (run : Run config s₁ events s)
    (steady : ∀ event ∈ events, disturbs name experiment.optimization event = false) :
    ∃ e, s.get? name = some e ∧ e.IsRationed experiment.optimization (origins name events) ∧
      ∀ given s', s.dispense name = .ok (given, s') →
        ∃ e', s'.get? name = some e' ∧ e'.IsWithin experiment.optimization := by
  have fresh : StoredExperiment.IsRationed experiment.optimization
      { experiment := experiment.kept, lastModified := now } [] :=
    ⟨rfl, rfl, fun _ => Nat.zero_le _, fun _ => Nat.zero_le _⟩
  obtain ⟨e, h, rationed⟩ := run.preserves
    (P := fun events e => e.IsRationed experiment.optimization (origins name events))
    (fun _ => removes_of_disturbs)
    (fun steady turn before => by
      rw [origins_snoc]
      exact before.turn turn steady)
    steady (get?_of_created put created) fresh
  refine ⟨e, h, rationed, fun given s' dispensed => ?_⟩
  have within := exists_isWithin_of_dispense h dispensed
  rwa [rationed.optimization] at within

/-- Two proposed trials pass both limits; two dispensed ones keep to them. -/
theorem dispensed_isRationed_sample :
    ∃ stored s₁ events s e, Store.put .empty ⟨0, false⟩ "sample" .sample = .ok (stored, s₁) ∧
      stored.created = true ∧ Run {} s₁ events s ∧
      (∀ event ∈ events, disturbs "sample" Experiment.sample.optimization event = false) ∧
      s.get? "sample" = some e ∧ e.trials.length = 4 ∧
      origins "sample" events = [.dispensed, .dispensed, .proposed, .proposed] ∧
      e.IsRationed Experiment.sample.optimization (origins "sample" events) := by
  let s₁ : Store := NameMap.insert .empty "sample"
    { experiment := Experiment.sample.kept, lastModified := ⟨0, false⟩ }
  have put : Store.put .empty ⟨0, false⟩ "sample" .sample =
    .ok (⟨true, Experiment.sample.kept, ⟨0, false⟩⟩, s₁) := rfl
  have here : Run {} s₁ [] s₁ := .start
  have run := here
    |>.step (.dispense "sample")
    |>.step (.report "sample" "1" { failed := true })
    |>.step (.dispense "sample")
    |>.step (.createTrial "sample" [])
    |>.step (.createTrial "sample" [])
    |>.step (.dispense "sample")
    |>.step (.put ⟨9, false⟩ "sample" { Experiment.sample with metrics := [] })
  obtain ⟨e, h, rationed, -⟩ := dispensed_isRationed put rfl run (by decide)
  have length : (some e).map (·.trials.length) = some 4 := by
    rw [← h]
    decide +kernel
  exact ⟨_, s₁, _, _, e, put, rfl, run, by decide, h, Option.some.inj length, rfl, rationed⟩

end Store

end TrialProtocol
