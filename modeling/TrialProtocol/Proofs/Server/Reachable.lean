import TrialProtocol.Proofs.Store.Invariant
import TrialProtocol.Server

/-!
# What a server can come to store

A request does nothing to the store, or what one operation of the store does. So what a server comes
to store is what some run of the store leads to, and besides, the server only puts experiments under
well-formed names, and only reports what it has read.

* `isMove_respond`: one request.
* `exists_run`: any number of them.
* `IsOrderly`: what holds of the stores that a server comes to.
* `Reachable.exists_read`: where observed values come from.
-/

namespace TrialProtocol.Server

open Http (Request Response)

/-- The stores that a server comes to, by any requests in any order. -/
inductive Reachable (config : ServerConfig) : Store → Prop where
  | start : Reachable config .empty
  | step {s : Store} (h : Reachable config s) (now : Instant) (request : Request) :
      Reachable config (respond config now request s).2

/-! ## 1. One request -/

/-- An operation as the server asks for it: nothing is put under a name that is not well formed, and
    nothing is reported that was not read. -/
structure IsAsked (op : Store.Operation) : Prop where
  names : ∀ now name experiment, op = .put now name experiment →
    ExperimentName.isWellFormed name.toList = true
  read : ∀ name id outcome, op = .report name id outcome →
    ∃ body, readBody TrialValues.record.decoder body = .ok outcome

/-- The store afterwards is the old one, or what an operation makes of it. -/
def IsMove (config : ServerConfig) (s s' : Store) : Prop :=
  s' = s ∨ ∃ op, IsAsked op ∧ s' = (Store.perform config s op).2

section Moves

variable (config : ServerConfig) (s : Store)

/-- The response does not matter for the store. -/
theorem snd_after {α : Type} (result : Except StoreError (α × Store))
    (next : α → Except Refusal Response) (answer : α → Store.Answer) :
    (after config s result next).2 = (Store.settle s answer result).2 := by
  cases result with
  | ok r => rfl
  | error why => rfl

theorem isMove_after {α : Type} {result : Except StoreError (α × Store)} (op : Store.Operation)
    (next : α → Except Refusal Response) (answer : α → Store.Answer) (asked : IsAsked op)
    (h : Store.perform config s op = Store.settle s answer result) :
    IsMove config s (after config s result next).2 := by
  refine .inr ⟨op, asked, ?_⟩
  rw [snd_after config s result next answer, h]

theorem isMove_putExperiment (now : Instant) (name : String) (body : List UInt8) :
    IsMove config s (putExperiment config now name body s).2 := by
  unfold putExperiment
  split
  · exact .inl rfl
  · rename_i parsed hp
    obtain ⟨wf, rfl⟩ := ExperimentName.parse_eq_ok_iff.mp hp
    split
    · exact .inl rfl
    · refine isMove_after config s (.put now name _) _ .stored ⟨?_, fun _ _ _ he => absurd he (by simp)⟩ rfl
      intro _ _ _ he
      cases he
      exact wf

theorem isMove_perform (now : Instant) (request : Request) (op : Operation) :
    IsMove config s (perform config now request s op).2 := by
  have other : ∀ {op : Store.Operation}, (∀ now name e, op ≠ .put now name e) →
      (∀ name id outcome, op ≠ .report name id outcome) → IsAsked op := fun put report =>
    ⟨fun now name e he => absurd he (put now name e),
      fun name id outcome he => absurd he (report name id outcome)⟩
  unfold perform
  split
  · exact .inl rfl
  · cases op with
    | listExperiments => exact .inl rfl
    | getExperiment name => exact .inl rfl
    | putExperiment name => exact isMove_putExperiment config s now name _
    | deleteExperiment name =>
      exact isMove_after config s (.delete name) _ (fun () => .deleted)
        (other (by simp) (by simp)) rfl
    | listTrials name => exact .inl rfl
    | createTrial name =>
      show IsMove config s (createTrial config name request.body s).2
      unfold createTrial
      split
      · exact .inl rfl
      · exact isMove_after config s (.createTrial name _) _ .created
          (other (by simp) (by simp)) rfl
    | reportTrial name id =>
      show IsMove config s (reportTrial config name id request.body s).2
      unfold reportTrial
      split
      · exact .inl rfl
      · rename_i outcome body
        refine isMove_after config s (.report name id outcome) _ (fun () => .reported)
          ⟨fun _ _ _ he => absurd he (by simp), ?_⟩ rfl
        intro _ _ _ he
        cases he
        exact ⟨request.body, body⟩
    | dispenseTrial name =>
      exact isMove_after config s (.dispense name) _
        (fun trial => .dispensed trial.1 trial.2) (other (by simp) (by simp)) rfl

/-- **What one request does to the store** is nothing, or what one operation does. -/
theorem isMove_respond (now : Instant) (request : Request) :
    IsMove config s (respond config now request s).2 := by
  have handled : IsMove config s (handle config now request s).2 := by
    unfold handle
    split
    · exact .inl rfl
    · split
      · exact .inl rfl
      · exact .inl rfl
      · exact isMove_perform config s now request _
  unfold respond
  by_cases ha : isAuthorized config request.fields
  · rw [if_pos ha]
    exact handled
  · rw [if_neg ha]
    exact .inl rfl

end Moves

/-! ## 2. All requests -/

/-- **What a server comes to store is what a run of the store leads to.** -/
theorem Reachable.exists_run {config : ServerConfig} {s : Store} (h : Reachable config s) :
    ∃ events, Store.Run config .empty events s ∧ ∀ event ∈ events, IsAsked event.1 := by
  induction h with
  | start => exact ⟨[], .start, fun event he => by cases he⟩
  | @step s _ now request ih =>
    obtain ⟨events, run, asked⟩ := ih
    rcases isMove_respond config s now request with hs | ⟨op, hop, hs⟩
    · rw [hs]
      exact ⟨events, run, asked⟩
    · rw [hs]
      refine ⟨_, .step run op, fun event he => ?_⟩
      rcases List.mem_append.mp he with he | he
      · exact asked event he
      · rw [List.mem_singleton.mp he]
        exact hop

section Runs

variable {config : ServerConfig} {events : List Store.Event} {s : Store} {name : String}
  {e : StoredExperiment} (run : Store.Run config .empty events s)
  (asked : ∀ event ∈ events, IsAsked event.1) (h : s.get? name = some e)

include run asked h

/-- A run that puts nothing under other names stores well-formed names only. -/
theorem isWellFormed_of_run : ExperimentName.isWellFormed name.toList = true := by
  induction run generalizing e with
  | start => cases h
  | @step events s run op ih =>
    have before : ∀ {e}, s.get? name = some e → ExperimentName.isWellFormed name.toList = true :=
      ih fun event he => asked event (List.mem_append_left _ he)
    have hop : IsAsked op := asked (op, _) (List.mem_append_right _ (List.mem_singleton.mpr rfl))
    have turn := Store.turn_perform config s op name
    rw [h] at turn
    generalize hentry : s.get? name = entry at turn before
    generalize hresult : (Store.perform config s op).1 = result at turn
    cases turn with
    | idle => exact before rfl
    | created valid => exact hop.names _ _ _ rfl
    | updated valid same => exact before rfl
    | dispensed unspent free => exact before rfl
    | proposed known => exact before rfl
    | reported active admitted => exact before rfl

/-- A run that reports nothing but what was read stores no other values. -/
theorem exists_read_of_run : ∀ t ∈ e.trials, t.values = [] ∨ ∃ body outcome,
    readBody TrialValues.record.decoder body = .ok outcome ∧ t.values = outcome.values := by
  induction run generalizing e with
  | start => cases h
  | @step events s run op ih =>
    have before : ∀ {e}, s.get? name = some e → ∀ t ∈ e.trials, t.values = [] ∨ ∃ body outcome,
        readBody TrialValues.record.decoder body = .ok outcome ∧ t.values = outcome.values :=
      ih fun event he => asked event (List.mem_append_left _ he)
    have hop : IsAsked op := asked (op, _) (List.mem_append_right _ (List.mem_singleton.mpr rfl))
    have turn := Store.turn_perform config s op name
    rw [h] at turn
    generalize hentry : s.get? name = entry at turn before
    generalize hresult : (Store.perform config s op).1 = result at turn
    intro t ht
    cases turn with
    | idle => exact before rfl t ht
    | created valid => cases ht
    | updated valid same => exact before rfl t ht
    | dispensed unspent free =>
      rcases StoredExperiment.mem_addTrial _ ht with old | new
      · exact before rfl t old
      · exact .inl (by rw [new])
    | proposed known =>
      rcases StoredExperiment.mem_addTrial _ ht with old | new
      · exact before rfl t old
      · exact .inl (by rw [new])
    | @reported e id outcome i u active admitted =>
      rcases List.mem_or_eq_of_mem_set ht with old | new
      · exact before rfl t old
      · obtain ⟨body, read⟩ := hop.read _ _ _ rfl
        rw [new, StoredTrial.settled]
        split
        · exact .inl rfl
        · exact .inr ⟨body, outcome, read, rfl⟩

end Runs

/-- What holds of the stores that a server comes to: names are well formed, and experiments are kept
    without links. -/
structure IsOrderly (s : Store) : Prop where
  isWellFormed : ∀ name e, s.get? name = some e → ExperimentName.isWellFormed name.toList = true
  unlinked : ∀ name e, s.get? name = some e → e.experiment.links = {}

/-- **Every store that a server comes to is orderly.** -/
theorem Reachable.isOrderly {config : ServerConfig} {s : Store} (h : Reachable config s) :
    IsOrderly s := by
  obtain ⟨events, run, asked⟩ := h.exists_run
  refine ⟨fun name e he => isWellFormed_of_run run asked he, fun name e he => ?_⟩
  have sound := Store.entryIsSound_of_run run name
  rw [he] at sound
  exact sound.unlinked

/-- **Observed values come from a body that was read.** -/
theorem Reachable.exists_read {config : ServerConfig} {s : Store} (h : Reachable config s)
    {name : String} {e : StoredExperiment} (stored : s.get? name = some e) :
    ∀ t ∈ e.trials, t.values = [] ∨ ∃ body outcome,
      readBody TrialValues.record.decoder body = .ok outcome ∧ t.values = outcome.values := by
  obtain ⟨events, run, asked⟩ := h.exists_run
  exact exists_read_of_run run asked stored

/-- Every entry of the list stands under its name. -/
theorem get?_of_mem_toList {s : Store} {name : String} {e : StoredExperiment}
    (h : (name, e) ∈ s.toList) : s.get? name = some e :=
  NameMap.mem_toList_iff.mp h

end TrialProtocol.Server
