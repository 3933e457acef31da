import TrialProtocol.Proofs.Experiment.Valid
import TrialProtocol.Proofs.Store.Run

/-!
# What every store keeps

`StoredExperiment.IsSound` is what holds of everything that is stored, in every state that a run from
the empty store reaches.

* Which trials were dispensed is no part of a store. It is read off the run: `origins` says of each
  trial of an experiment how it came about, in the order of their ids.
* Assignments are checked once, when a trial is added. That they fit the experiment ever after rests
  on updates keeping the parameters (`Turn.updated`).
-/

namespace TrialProtocol

namespace Store

/-! ## 1. How trials came about -/

/-- How a trial came about: it was dispensed, or a worker proposed it. -/
inductive Origin where
  | dispensed
  | proposed
  deriving DecidableEq, Repr

/-- The origins of an experiment's trials after one more step. -/
def originsAfter (name : String) (so_far : List Origin) : Event → List Origin
  | (.dispense n, .ok (.dispensed _ _)) => if n = name then so_far ++ [.dispensed] else so_far
  | (.createTrial n _, .ok (.created _)) => if n = name then so_far ++ [.proposed] else so_far
  | (.delete n, .ok .deleted) => if n = name then [] else so_far
  | _ => so_far

/-- The origins of the trials that an experiment has after a run, in the order of their ids. -/
def origins (name : String) (events : List Event) : List Origin :=
  events.foldl (originsAfter name) []

theorem origins_snoc (name : String) (events : List Event) (event : Event) :
    origins name (events ++ [event]) = originsAfter name (origins name events) event := by
  rw [origins, List.foldl_append]
  rfl

/-- A dispensed trial is the next one. -/
theorem originsAfter_dispensed (name : String) (so_far : List Origin) (id : Nat)
    (assignments : List Assignment) :
    originsAfter name so_far (.dispense name, .ok (.dispensed id assignments)) =
      so_far ++ [.dispensed] :=
  if_pos rfl

/-- So is a proposed one. -/
theorem originsAfter_proposed (name : String) (so_far : List Origin) (id : Nat)
    (assignments : List Assignment) :
    originsAfter name so_far (.createTrial name assignments, .ok (.created id)) =
      so_far ++ [.proposed] :=
  if_pos rfl

/-- A step that leaves the name alone adds no trial and removes none. -/
theorem originsAfter_of_idle {name : String} {op : Operation} {r : Result} (h : Idle name op r)
    (so_far : List Origin) : originsAfter name so_far (op, r) = so_far := by
  cases h with
  | elsewhere other =>
    unfold originsAfter
    split
    all_goals first
      | rfl
      | rename_i he
        cases he
        exact if_neg fun e => other (by rw [Operation.target?, e])
  | refused => cases op <;> rfl
  | looked read => cases op <;> first | rfl | cases read

end Store

/-! ## 2. The invariant -/

open Store (Origin Turn origins originsAfter)

/-- **What holds of everything that is stored**, given how its trials came about. -/
structure StoredExperiment.IsSound (e : StoredExperiment) (os : List Origin) : Prop where
  valid : e.experiment.validate = .ok ()
  unlinked : e.experiment.links = {}
  origins_length : os.length = e.trials.length
  status : ∀ t ∈ e.trials, t.status = .active ∨ t.status = .completed ∨ t.status = .failed
  values : ∀ t ∈ e.trials, t.status = .active ∨ t.status = .failed → t.values = []
  assigned : ∀ t ∈ e.trials, e.experiment.HasParameters t.assignments
  dispensed : ∀ (i : Nat) (t : StoredTrial), e.trials[i]? = some t →
    os[i]? = some .dispensed → e.experiment.Spans t.assignments

/-- The invariant of what stands under a name, perhaps nothing. -/
def Store.EntryIsSound : Option StoredExperiment → List Origin → Prop
  | some e, os => e.IsSound os
  | none, os => os = []

namespace StoredExperiment.IsSound

variable {e : StoredExperiment} {os : List Origin}

/-- An experiment without trials is sound if it is valid. -/
theorem of_created {experiment : Experiment} (valid : experiment.validate = .ok ())
    (now : Instant) : IsSound { experiment := experiment.kept, lastModified := now } [] where
  valid := valid
  unlinked := rfl
  origins_length := rfl
  status t ht := by cases ht
  values t ht := by cases ht
  assigned t ht := by cases ht
  dispensed i t ht := by simp at ht

/-- An update with the same parameters keeps what the trials assign. -/
theorem update (h : e.IsSound os) {experiment : Experiment} (valid : experiment.validate = .ok ())
    (same : e.experiment.parameters = experiment.parameters) (now : Instant) :
    IsSound { e with experiment := experiment.kept, lastModified := now } os where
  valid := valid
  unlinked := rfl
  origins_length := h.origins_length
  status := h.status
  values := h.values
  assigned t ht a ha := by
    have := h.assigned t ht a ha
    rw [Experiment.parameter?, same] at this
    exact this
  dispensed i t ht ho := by
    have := h.dispensed i t ht ho
    rw [Experiment.Spans, same] at this
    exact this

/-- A trial may be added whose assignments are known, and span the parameters if it is dispensed. -/
theorem addTrial (h : e.IsSound os) {assignments : List Assignment} {o : Origin}
    (known : e.experiment.HasParameters assignments)
    (spans : o = .dispensed → e.experiment.Spans assignments) :
    (e.addTrial assignments).IsSound (os ++ [o]) where
  valid := h.valid
  unlinked := h.unlinked
  origins_length := by simp [h.origins_length]
  status t ht := by
    rcases e.mem_addTrial ht with ht | rfl
    · exact h.status t ht
    · exact .inl rfl
  values t ht hs := by
    rcases e.mem_addTrial ht with ht | rfl
    · exact h.values t ht hs
    · rfl
  assigned t ht := by
    rcases e.mem_addTrial ht with ht | rfl
    · exact h.assigned t ht
    · exact known
  dispensed i t ht ho := by
    rw [getElem?_addTrial] at ht
    by_cases hi : i = e.trials.length
    · rw [if_pos hi] at ht
      rw [hi, ← h.origins_length, List.getElem?_concat_length] at ho
      rw [← Option.some.inj ht]
      exact spans (Option.some.inj ho)
    · rw [if_neg hi] at ht
      have hlt : i < os.length := by
        rw [h.origins_length]
        exact (List.getElem?_eq_some_iff.mp ht).1
      rw [List.getElem?_append_left hlt] at ho
      exact h.dispensed i t ht ho

/-- A report changes the status and the values of one trial that waited for it. -/
theorem settle (h : e.IsSound os) {i : Nat} {t : StoredTrial} (ht : e.trials[i]? = some t)
    (outcome : TrialValues) : (e.settle i t outcome).IsSound os where
  valid := h.valid
  unlinked := h.unlinked
  origins_length := by simp [h.origins_length]
  status u hu := by
    rcases List.mem_or_eq_of_mem_set hu with hu | rfl
    · exact h.status u hu
    · exact .inr (t.status_settled outcome)
  values u hu hs := by
    rcases List.mem_or_eq_of_mem_set hu with hu | rfl
    · exact h.values u hu hs
    · rcases t.settled_cases outcome with ⟨-, hv⟩ | hc
      · exact hv
      · rw [hc] at hs
        rcases hs with hs | hs <;> cases hs
  assigned u hu := by
    rcases List.mem_or_eq_of_mem_set hu with hu | rfl
    · exact h.assigned u hu
    · rw [StoredTrial.assignments_settled]
      exact h.assigned t (List.mem_of_getElem? ht)
  dispensed j u hu ho := by
    rw [getElem?_settle e ht] at hu
    by_cases hij : i = j
    · subst hij
      rw [if_pos rfl] at hu
      rw [← Option.some.inj hu, StoredTrial.assignments_settled]
      exact h.dispensed i t ht ho
    · rw [if_neg hij] at hu
      exact h.dispensed j u hu ho

end StoredExperiment.IsSound

namespace Store

/-- **Every step keeps the invariant.** -/
theorem EntryIsSound.turn {name : String} {op : Operation} {r : Result}
    {entry entry' : Option StoredExperiment} {os : List Origin}
    (turn : Turn name op r entry entry') (h : EntryIsSound entry os) :
    EntryIsSound entry' (originsAfter name os (op, r)) := by
  cases turn with
  | idle idle =>
    rw [originsAfter_of_idle idle]
    exact h
  | created valid =>
    have ho : os = [] := h
    subst ho
    exact .of_created valid _
  | updated valid same => exact StoredExperiment.IsSound.update h valid same _
  | deleted => exact if_pos rfl
  | @dispensed e unspent free =>
    have hs : e.IsSound os := h
    have spans : e.experiment.Spans e.lowerBounds :=
      Experiment.spans_lowerBounds hs.valid
    rw [originsAfter_dispensed]
    exact hs.addTrial spans.hasParameters fun _ => spans
  | @proposed e assignments known =>
    have hs : e.IsSound os := h
    rw [originsAfter_proposed]
    exact hs.addTrial known fun e => by cases e
  | reported active admitted =>
    exact StoredExperiment.IsSound.settle h (activeTrial?_eq_some.mp active).2.1 _

/-- The invariant holds of every name after every run from the empty store. -/
theorem entryIsSound_of_run {config : ServerConfig} {events : List Event} {s : Store}
    (run : Run config .empty events s) (name : String) :
    EntryIsSound (s.get? name) (origins name events) := by
  induction run with
  | start => rfl
  | @step events s run op ih =>
    rw [origins_snoc]
    exact ih.turn (turn_perform config s op name)

/-- A listing tells the status of each trial, and marks the failed ones. -/
theorem listTrials_of_get? {s : Store} {name : String} {e : StoredExperiment}
    (h : s.get? name = some e) :
    ∃ items, s.listTrials name = .ok items ∧
      List.Forall₂ (fun t item => item.status = t.status ∧
        (item.failed = true ↔ t.status = .failed)) e.trials items := by
  refine ⟨e.trials.map StoredTrial.item, ?_, ?_⟩
  · rw [listTrials, find_of_get? h]
    rfl
  · rw [List.forall₂_map_right_iff, List.forall₂_same]
    exact fun t _ => ⟨rfl, beq_iff_eq⟩

/-- **Everything that stands in a store is sound, after every run from the empty one**, and its
    listing marks as failed exactly the trials that failed. -/
theorem stored_isSound {config : ServerConfig} {events : List Event} {s : Store}
    (run : Run config .empty events s) {name : String} {e : StoredExperiment}
    (h : s.get? name = some e) :
    e.IsSound (origins name events) ∧
      ∃ items, s.listTrials name = .ok items ∧
        List.Forall₂ (fun t item => item.status = t.status ∧
          (item.failed = true ↔ t.status = .failed)) e.trials items := by
  have sound := entryIsSound_of_run run name
  rw [h] at sound
  exact ⟨sound, listTrials_of_get? h⟩

/-- A run with a dispensed trial that fails, a proposed one that stays, and an update. -/
theorem stored_isSound_sample :
    ∃ events s e, Run {} .empty events s ∧ s.get? "sample" = some e ∧
      e.trials.map (·.status) = [.failed, .active] ∧ origins "sample" events = [.dispensed, .proposed] ∧
      e.IsSound (origins "sample" events) := by
  have here : Run {} .empty [] .empty := .start
  have run := here
    |>.step (.put ⟨0, false⟩ "sample" .sample)
    |>.step (.dispense "sample")
    |>.step (.createTrial "sample" [{ parameterName := "cpu", value := .ofDigit 7 }])
    |>.step (.report "sample" "1" { failed := true })
    |>.step (.put ⟨9, false⟩ "sample" { Experiment.sample with metrics := [] })
  refine ⟨_, _, _, run, rfl, rfl, rfl, (stored_isSound run rfl).1⟩

end Store

end TrialProtocol
