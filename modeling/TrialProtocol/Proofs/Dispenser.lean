import TrialProtocol.Proofs.Client.Answer
import TrialProtocol.Proofs.Store.Limits

/-!
# What the dispenser's refusals promise

A worker that asks for a trial and gets none is told to stop, or to wait and ask again. Both are said
for good reason:

* to stop (410), if the budget is spent. Trials are never taken back, so it stays spent until somebody
  deletes the experiment or gives it another optimization;
* to wait (503), if too many trials run. Then some trial runs, and once enough reports were taken a
  trial is given out, as long as nobody adds one in the meantime: the budget was looked at first, and
  a report spends none of it.

`Dispenser.IsTruthful` says both, and that a client's failure is terminal in the one case and
retryable in the other.
-/

namespace TrialProtocol

open Store (Event Run disturbs givenId?)

namespace Store

/-! ## 1. Refusals -/

/-- The status with which the dispenser refuses to give out a trial, if it does. -/
def refusal? (s : Store) (name : String) : Option Nat :=
  match s.dispense name with
  | .ok _ => none
  | .error why => some (Server.statusOf why)

section Present

variable {s : Store} {name : String} {e : StoredExperiment} (h : s.get? name = some e)

include h

/-- The budget is looked at first. -/
theorem refusal?_of_get? : s.refusal? name =
    if e.IsSpent then some 410 else if e.IsFull then some 503 else none := by
  rcases dispense_of_get? h with ⟨spent, hd⟩ | ⟨unspent, full, hd⟩ | ⟨unspent, free, hd⟩
  · rw [refusal?, hd, if_pos spent]
    rfl
  · rw [refusal?, hd, if_neg unspent, if_pos full]
    rfl
  · rw [refusal?, hd, if_neg unspent, if_neg free]

theorem refusal?_eq_gone_iff : s.refusal? name = some 410 ↔ e.IsSpent := by
  rw [refusal?_of_get? h]
  by_cases spent : e.IsSpent <;> by_cases full : e.IsFull <;> simp [spent, full]

theorem refusal?_eq_busy_iff : s.refusal? name = some 503 ↔ ¬e.IsSpent ∧ e.IsFull := by
  rw [refusal?_of_get? h]
  by_cases spent : e.IsSpent <;> by_cases full : e.IsFull <;> simp [spent, full]

/-- A trial is given out if neither limit was reached. -/
theorem exists_dispense (unspent : ¬e.IsSpent) (free : ¬e.IsFull) :
    ∃ given s', s.dispense name = .ok (given, s') := by
  rcases dispense_of_get? h with ⟨spent, -⟩ | ⟨-, full, -⟩ | ⟨-, -, hd⟩
  · exact absurd spent unspent
  · exact absurd full free
  · exact ⟨_, _, hd⟩

end Present

end Store

namespace StoredExperiment

variable {name : String} {events : List Event} {e e' : StoredExperiment}

/-- A spent budget stays spent. -/
theorem IsSpent.evolve (h : e.IsSpent) (evolved : e.Evolution name events e')
    (kept : e'.experiment.optimization = e.experiment.optimization) : e'.IsSpent := by
  rw [IsSpent, kept]
  exact ⟨h.1, Nat.le_trans h.2 evolved.length_le⟩

/-- Where as many trials run as may, some trial runs. -/
theorem IsFull.activeTrials_pos (h : e.IsFull) : 0 < e.activeTrials := by
  refine Nat.lt_of_lt_of_le (Nat.pos_of_ne_zero fun zero => ?_) h.2
  exact h.1 (UInt32.toNat_inj.mp zero)

/-- Without a trial more the budget is as it was. -/
theorem Evolution.length_eq (evolved : e.Evolution name events e')
    (none : ∀ event ∈ events, givenId? name event = none) :
    e'.trials.length = e.trials.length := by
  have ids := evolved.ids
  rw [List.filterMap_eq_nil_iff.mpr none] at ids
  have more := congrArg List.length ids
  rw [List.length_nil, List.length_range'] at more
  have le := evolved.length_le
  omega

end StoredExperiment

/-! ## 2. What a worker is told -/

namespace Reply

/-- A dispensed trial that cannot be read is no failure that a status stands for. -/
theorem exists_undecodable {response : Http.Response} {err : ClientError}
    (h : dispensed.read response = .error err) : ∃ fault, err = .undecodable fault := by
  simp only [dispensed, readBody] at h
  split at h
  · cases h
  · cases h
    exact ⟨_, rfl⟩

/-- What the statuses of a dispenser stand for. -/
theorem kindOfStatus_dispensed {status : Nat} :
    ClientError.kindOfStatus dispensed.refused status =
      if status = 410 then .experimentStopped else if status = 503 then .trialUnavailable
      else if status = 401 then .unauthorized else .unexpectedResponse := by
  by_cases gone : status = 410
  · rw [if_pos gone, gone]
    rfl
  · by_cases busy : status = 503
    · rw [if_neg gone, if_pos busy, busy]
      rfl
    · have unnamed : dispensed.refused.lookup status = none := by
        simp only [dispensed, List.lookup_cons, beq_false_of_ne gone, beq_false_of_ne busy,
          List.lookup_nil]
      rw [ClientError.kindOfStatus, unnamed, if_neg gone, if_neg busy]

/-- **A failure to get a trial is terminal, or retryable, exactly for one status.** -/
theorem failure_of_dispensed {response : Http.Response} {err : ClientError}
    (h : dispensed.receive response = .error err) :
    (err.isTerminal = true ↔ response.status = 410) ∧
      (err.isRetryable = true ↔ response.status = 503) := by
  unfold receive at h
  split at h
  · rename_i accepted
    have given : response.status = 200 := List.mem_singleton.mp accepted
    obtain ⟨fault, rfl⟩ := exists_undecodable h
    rw [given]
    exact ⟨iff_of_false Bool.false_ne_true (by decide), iff_of_false Bool.false_ne_true (by decide)⟩
  · cases h
    rw [ClientError.ofResponse, kindOfStatus_dispensed]
    by_cases gone : response.status = 410
    · rw [if_pos gone, gone]
      exact ⟨iff_of_true rfl rfl, iff_of_false Bool.false_ne_true (by decide)⟩
    · by_cases busy : response.status = 503
      · rw [if_neg gone, if_pos busy, busy]
        exact ⟨iff_of_false Bool.false_ne_true (by decide), iff_of_true rfl rfl⟩
      · rw [if_neg gone, if_neg busy]
        by_cases closed : response.status = 401
        · rw [if_pos closed]
          exact ⟨iff_of_false Bool.false_ne_true gone, iff_of_false Bool.false_ne_true busy⟩
        · rw [if_neg closed]
          exact ⟨iff_of_false Bool.false_ne_true gone, iff_of_false Bool.false_ne_true busy⟩

end Reply

namespace Dispenser

/-- What a worker gets that asks for a trial: the client's reading of the server's answer. -/
def ask (config : ServerConfig) (s : Store) (name : String) : Except ClientError TrialAssignments :=
  Reply.dispensed.receive (Server.dispenseTrial config name s).1

variable {config : ServerConfig} {s : Store} {name : String}

/-- The server answers a refusal with its status, and nothing else with such a status. -/
theorem status_dispenseTrial (config : ServerConfig) (s : Store) (name : String) :
    s.refusal? name = some (Server.dispenseTrial config name s).1.status ∨
      (s.refusal? name = none ∧ ((Server.dispenseTrial config name s).1.status = 200 ∨
        (Server.dispenseTrial config name s).1.status = 500)) := by
  rw [Server.dispenseTrial, Store.refusal?]
  cases s.dispense name with
  | error why => exact .inl rfl
  | ok given =>
    refine .inr ⟨rfl, ?_⟩
    obtain ⟨⟨id, assignments⟩, s'⟩ := given
    rw [Server.after]
    simp only [Server.field]
    split
    · exact .inl rfl
    · exact .inr rfl

/-- **A worker's failure is terminal, or retryable, exactly for the refusal that says so.** -/
theorem failure_of_ask {err : ClientError} (h : ask config s name = .error err) :
    (err.isTerminal = true ↔ s.refusal? name = some 410) ∧
      (err.isRetryable = true ↔ s.refusal? name = some 503) := by
  obtain ⟨terminal, retryable⟩ := Reply.failure_of_dispensed h
  rw [terminal, retryable]
  rcases status_dispenseTrial config s name with refused | ⟨given, status⟩
  · rw [refused, Option.some.injEq, Option.some.injEq]
    exact ⟨.rfl, .rfl⟩
  · rw [given]
    rcases status with status | status <;> rw [status] <;> decide

theorem ask_of_refusal? {status : Nat} (h : s.refusal? name = some status) :
    ask config s name =
      .error (ClientError.ofStatus Reply.dispensed.refused status config.retryAfter) := by
  unfold Store.refusal? at h
  split at h
  · cases h
  · rename_i why hd
    rw [← Option.some.inj h, ask, Server.dispenseTrial, hd, Server.after]
    exact Reply.receive_refusal (by decide) (by decide) config why

/-! ## 3. The truth of it -/

/-- **The dispenser tells workers the truth** about an experiment. -/
structure IsTruthful (config : ServerConfig) (s : Store) (name : String) (e : StoredExperiment) :
    Prop where
  /-- Who is told to stop will be told so ever after, whatever trials are dispensed, proposed and
      reported, and whatever happens under other names. -/
  lasting : s.refusal? name = some 410 → ∀ {events : List Event} {t : Store},
    Run config s events t →
    (∀ event ∈ events, disturbs name e.experiment.optimization event = false) →
    t.refusal? name = some 410
  /-- Who is told to wait waits for some trial. -/
  awaited : s.refusal? name = some 503 → 0 < e.activeTrials
  /-- Who is told to wait gets a trial as soon as reports have brought the number of active trials
      below the limit, if no trial is added before. -/
  curable : s.refusal? name = some 503 → ∀ {events : List Event} {t : Store},
    Run config s events t →
    (∀ event ∈ events, disturbs name e.experiment.optimization event = false) →
    (∀ event ∈ events, givenId? name event = none) →
    ∃ e', t.get? name = some e' ∧
      (e'.activeTrials < e.experiment.optimization.parallelTrials.toNat →
        ∃ given t', t.dispense name = .ok (given, t'))
  /-- What a worker is told in the two cases. -/
  stopped : s.refusal? name = some 410 → ask config s name = .error .experimentStopped
  unavailable : s.refusal? name = some 503 →
    ask config s name = .error (.trialUnavailable config.retryAfter)
  terminal : ∀ err, ask config s name = .error err →
    (err.isTerminal = true ↔ s.refusal? name = some 410)
  retryable : ∀ err, ask config s name = .error err →
    (err.isRetryable = true ↔ s.refusal? name = some 503)

/-- **In every state the dispenser tells workers the truth** about every experiment. -/
theorem isTruthful {e : StoredExperiment} (h : s.get? name = some e) :
    IsTruthful config s name e where
  lasting gone events t run steady := by
    obtain ⟨e', ht, evolved, kept⟩ := run.steady steady h
    have spent := (Store.refusal?_eq_gone_iff h).mp gone
    exact (Store.refusal?_eq_gone_iff ht).mpr (spent.evolve evolved kept)
  awaited busy := ((Store.refusal?_eq_busy_iff h).mp busy).2.activeTrials_pos
  curable busy events t run steady none := by
    obtain ⟨e', ht, evolved, kept⟩ := run.steady steady h
    refine ⟨e', ht, fun fewer => Store.exists_dispense ht ?_ ?_⟩
    · -- neither the budget nor the number of trials has changed
      have unspent := ((Store.refusal?_eq_busy_iff h).mp busy).1
      rw [StoredExperiment.IsSpent, evolved.length_eq none, kept]
      exact unspent
    · rw [StoredExperiment.IsFull, kept]
      exact fun full => Nat.lt_irrefl _ (Nat.lt_of_lt_of_le fewer full.2)
  stopped gone := ask_of_refusal? gone
  unavailable busy := ask_of_refusal? busy
  terminal _ failed := (failure_of_ask failed).1
  retryable _ failed := (failure_of_ask failed).2

/-- A worker waits for the one trial that may run, and gets the second when the first has failed;
    then the budget is spent, and a proposed trial changes nothing about it. -/
theorem isTruthful_sample : ∃ s e t u e' v, s.get? "sample" = some e ∧
    IsTruthful {} s "sample" e ∧ s.refusal? "sample" = some 503 ∧
    Run {} s [(.report "sample" "1" { failed := true }, .ok .reported)] t ∧
    (∃ given t', t.dispense "sample" = .ok (given, t')) ∧
    u.get? "sample" = some e' ∧ IsTruthful {} u "sample" e' ∧ u.refusal? "sample" = some 410 ∧
    Run {} u [(.createTrial "sample" [], .ok (.created 3))] v ∧ v.refusal? "sample" = some 410 := by
  let first : StoredTrial := { assignments := [{ parameterName := "cpu", value := .ofDigit 1 }] }
  let e : StoredExperiment :=
    { experiment := .sample, lastModified := ⟨0, false⟩, trials := [first] }
  let e' : StoredExperiment := { e with trials := [{ first with status := .failed }, first] }
  let s : Store := NameMap.insert .empty "sample" e
  let u : Store := NameMap.insert .empty "sample" e'
  have run : Run {} s [] s := .start
  have waited := run.step (.report "sample" "1" { failed := true })
  have busy : s.refusal? "sample" = some 503 := by decide
  have truth : IsTruthful {} s "sample" e := isTruthful rfl
  obtain ⟨_, ht, cured⟩ := truth.curable busy waited (by decide) (by decide)
  have run' : Run {} u [] u := .start
  have proposed := run'.step (.createTrial "sample" [])
  have gone : u.refusal? "sample" = some 410 := by decide
  have truth' : IsTruthful {} u "sample" e' := isTruthful rfl
  have lasting := truth'.lasting gone proposed (by decide)
  cases ht
  exact ⟨s, e, _, u, e', _, rfl, truth, busy, waited, cured (by decide), rfl, truth', gone, proposed,
    lasting⟩

end Dispenser

end TrialProtocol
