import Mathlib.Data.List.Induction
import Mathlib.Data.List.Nodup
import TrialProtocol.Proofs.Resource

/-!
# Report links over whole runs

A log has what a server was asked and what it answered, request after request. A report link names a
trial by its experiment and its number. Numbers are given out one after the other, but they start
again when an experiment is deleted and created anew, and then the old links are handed out once more.

* `Serves`: the logs of a server.
* `exists_event`: what one entry of a log tells about the store, and `Serves.exists_run` for a log.
* `Serves.evolution`: as long as nobody deletes an experiment, its links are handed out one by one, and
  each takes one report at most.
* `isOneTime`: so a link that comes a second time, or takes a second report, does so after a deletion,
  and every report is one of the trial that the link was last handed out for.
* `not_handed_once`: without the deletion this would not be true.
-/

namespace TrialProtocol.Server

open Http (Field Request Response)
open Store (Event Run Turn givenId? reports removes)

/-! ## 1. Logs -/

/-- What a server was asked, and what it answered. -/
abbrev Entry := Request × Response

/-- **The logs of a server** from a store on: any requests in any order. -/
inductive Serves (config : ServerConfig) (start : Store) : List Entry → Store → Prop where
  | start : Serves config start [] start
  | step {log : List Entry} {s : Store} (served : Serves config start log s) (now : Instant)
      (request : Request) :
      Serves config start (log ++ [(request, (respond config now request s).1)])
        (respond config now request s).2

/-- The experiment that an operation gives out a trial of. -/
def Operation.givesTrialOf? : Operation → Option String
  | .dispenseTrial name => some name
  | .createTrial name => some name
  | _ => none

/-- The report link that comes with a trial of an experiment, dispensed or proposed. -/
def handed? (name : String) (entry : Entry) : Option String :=
  if (asked? entry.1).bind Operation.givesTrialOf? = some name ∧ entry.2.status < 400 then
    (TrialLinks.extract entry.2.fields).report
  else none

/-- Whether a report of the trial at a place was taken, however its number was written. -/
def accepts (name : String) (i : Nat) (entry : Entry) : Bool :=
  match asked? entry.1 with
  | some (.reportTrial n id) =>
    n == name && Store.trialIndex? id == some i && decide (entry.2.status < 400)
  | _ => false

/-- Whether an experiment was deleted. -/
def deletes (name : String) (entry : Entry) : Bool :=
  match asked? entry.1 with
  | some (.deleteExperiment n) => n == name && decide (entry.2.status < 400)
  | _ => false

namespace Serves

variable {config : ServerConfig} {start s : Store} {log before after : List Entry}

/-- What a server comes to from a store in its reach is in its reach. -/
theorem reachable (served : Serves config start log s) (h : Reachable config start) :
    Reachable config s := by
  induction served with
  | start => exact h
  | step served now request ih => exact ih.step now request

/-- The last entry of a log. -/
theorem exists_last {entry : Entry} (served : Serves config start (log ++ [entry]) s) :
    ∃ t now, Serves config start log t ∧ entry = (entry.1, (respond config now entry.1 t).1) ∧
      s = (respond config now entry.1 t).2 := by
  generalize hlog : log ++ [entry] = whole at served
  cases served with
  | start => simp at hlog
  | @step log' t served now request =>
    obtain ⟨rfl, last⟩ := List.append_inj' hlog rfl
    obtain rfl := List.singleton_inj.mp last
    exact ⟨t, now, served, rfl, rfl⟩

/-- A log can be read in two parts. -/
theorem exists_between (served : Serves config start (before ++ after) s) :
    ∃ t, Serves config start before t ∧ Serves config t after s := by
  induction after using List.reverseRecOn generalizing s with
  | nil =>
    rw [List.append_nil] at served
    exact ⟨s, served, .start⟩
  | append_singleton after entry ih =>
    rw [← List.append_assoc] at served
    obtain ⟨u, now, first, hentry, rfl⟩ := served.exists_last
    obtain ⟨t, served, rest⟩ := ih first
    refine ⟨t, served, ?_⟩
    rw [hentry]
    exact rest.step now entry.1

/-- A stretch of a log, from the store that its first entry was answered from. -/
theorem exists_stretch {x y : Entry} {between : List Entry}
    (served : Serves config start (before ++ x :: between ++ y :: after) s) :
    ∃ t u now, Serves config start before t ∧ Serves config t (x :: between ++ [y]) u ∧
      x = (x.1, (respond config now x.1 t).1) := by
  have parts : before ++ x :: between ++ y :: after =
      before ++ ((x :: between ++ [y]) ++ after) := by simp
  rw [parts] at served
  obtain ⟨t, first, rest⟩ := served.exists_between
  obtain ⟨u, stretch, -⟩ := rest.exists_between
  have head : Serves config t ([x] ++ (between ++ [y])) u := by simpa using stretch
  obtain ⟨v, one, -⟩ := head.exists_between
  have one : Serves config t ([] ++ [x]) v := one
  obtain ⟨t', now, nothing, same, -⟩ := one.exists_last
  generalize hnil : ([] : List Entry) = empty at nothing
  cases nothing with
  | start => exact ⟨t, u, now, first, stretch, same⟩
  | step served now request => simp at hnil

end Serves

/-! ## 2. What an entry tells -/

/-- What an entry of a log tells about a step of the store. -/
structure Tells (entry : Entry) (event : Event) : Prop where
  removed : ∀ name, removes name event = deletes name entry
  reported : ∀ name i, reports name i event = accepts name i entry
  given : ∀ name, (givenId? name event).map (trialPath name) = handed? name entry

/-- A step that only looks is told by an entry that gave, took and removed nothing. -/
theorem tells_of_idle {entry : Entry} {event : Event} (read : event.1.isRead = true)
    (removed : ∀ name, deletes name entry = false)
    (reported : ∀ name i, accepts name i entry = false)
    (given : ∀ name, handed? name entry = none) : Tells entry event where
  removed name := by
    rw [removed]
    obtain ⟨op, r⟩ := event
    cases op <;> first | rfl | cases read
  reported name i := by
    rw [reported]
    exact Store.reports_of_idle (.looked read) i
  given name := by
    rw [given, Option.map_eq_none_iff]
    exact Store.givenId?_of_idle (.looked read)

/-- The link that comes with a trial. -/
theorem handed?_of_gives {request : Request} {answer : Response} {op : Operation}
    {name link : String} (asked : asked? request = some op) (gives : op.givesTrialOf? = some name)
    (lt : answer.status < 400) (links : TrialLinks.extract answer.fields = { report := some link })
    (n : String) : handed? n (request, answer) = if name = n then some link else none := by
  have asks : (asked? request).bind Operation.givesTrialOf? = some name := by
    rw [asked, Option.bind_some, gives]
  by_cases same : name = n
  · rw [handed?, if_pos ⟨asks.trans (congrArg some same), lt⟩, if_pos same, links]
  · rw [handed?, if_neg fun h => same (Option.some.inj (asks.symm.trans h.1)), if_neg same]

section Entries

variable {config : ServerConfig} {s s' : Store} {request : Request} {response answer : Response}
  {op : Operation} (orderly : IsOrderly s) {now : Instant}

include orderly

/-- An operation that was carried out is one step of the store. The answer may lack its body. -/
theorem exists_event_of_success (asked : asked? request = some op) (lt : answer.status < 400)
    (fields : answer.fields = response.fields)
    (success : Success config now request s op response s') : ∃ event : Event,
      Store.perform config s event.1 = (event.2, s') ∧ Tells (request, answer) event := by
  have looking : op.looks = true → s' = s → ∃ event : Event,
      Store.perform config s event.1 = (event.2, s') ∧ Tells (request, answer) event := by
    rintro looks rfl
    refine ⟨(.list {}, (Store.perform config s' (.list {})).1), rfl, tells_of_idle rfl ?_ ?_ ?_⟩
    · intro name
      cases op <;> first | (simp [deletes, asked]; done) | cases looks
    · intro name i
      cases op <;> first | (simp [accepts, asked]; done) | cases looks
    · intro name
      cases op <;> first | (simp [handed?, asked, Operation.givesTrialOf?]; done) | cases looks
  cases success with
  | listed query links => exact looking rfl rfl
  | shown stored => exact looking rfl rfl
  | trials done => exact looking rfl rfl
  | @put name submitted stored _ wf body done =>
    refine ⟨(.put now name submitted, .ok (.stored stored)), ?_, ?_, ?_, ?_⟩
    · simp [Store.perform, Store.settle, done]
    · simp [removes, deletes, asked]
    · simp [reports, accepts, asked]
    · simp [givenId?, handed?, asked, Operation.givesTrialOf?]
  | @deleted name _ done =>
    refine ⟨(.delete name, .ok .deleted), ?_, ?_, ?_, ?_⟩
    · simp [Store.perform, Store.settle, done, Except.map]
    · simp [removes, deletes, asked, lt]
    · simp [reports, accepts, asked]
    · simp [givenId?, handed?, asked, Operation.givesTrialOf?]
  | @created name trial id _ body done =>
    refine ⟨(.createTrial name trial.assignments, .ok (.created id)), ?_, ?_, ?_, ?_⟩
    · simp [Store.perform, Store.settle, done]
    · simp [removes, deletes, asked]
    · simp [reports, accepts, asked]
    · intro n
      obtain ⟨e, stored⟩ := Store.exists_get?_of_createTrial done
      have link := Reply.extract_trialPath (orderly.isWellFormed _ _ stored) id (.inl rfl)
      rw [List.nil_append] at link
      have link : TrialLinks.extract answer.fields = _ := (congrArg _ fields).trans link
      rw [handed?_of_gives asked rfl lt link, givenId?]
      split
      · rename_i same
        rw [same]
        rfl
      · rfl
  | @dispensed name id assignments _ done =>
    refine ⟨(.dispense name, .ok (.dispensed id assignments)), ?_, ?_, ?_, ?_⟩
    · simp [Store.perform, Store.settle, done]
    · simp [removes, deletes, asked]
    · simp [reports, accepts, asked]
    · intro n
      obtain ⟨e, stored⟩ := Store.exists_get?_of_dispense done
      have link := Reply.extract_trialPath (orderly.isWellFormed _ _ stored) id (.inr rfl)
      rw [List.singleton_append] at link
      have link : TrialLinks.extract answer.fields = _ := (congrArg _ fields).trans link
      rw [handed?_of_gives asked rfl lt link, givenId?]
      split
      · rename_i same
        rw [same]
        rfl
      · rfl
  | @reported name id outcome _ body done =>
    refine ⟨(.report name id outcome, .ok .reported), ?_, ?_, ?_, ?_⟩
    · simp [Store.perform, Store.settle, done, Except.map]
    · simp [removes, deletes, asked]
    · simp [reports, accepts, asked, lt]
    · simp [givenId?, handed?, asked, Operation.givesTrialOf?]

/-- A refused request leaves the store as it was. -/
theorem snd_respond_of_refused (ge : 400 ≤ (respond config now request s).1.status) :
    (respond config now request s).2 = s := by
  unfold respond at ge ⊢
  by_cases authorized : isAuthorized config request.fields = true
  · rw [if_pos authorized] at ge ⊢
    exact ((isCareful_handle orderly now request).leavesNoTrace
      (snd_handle_of_looking now request)).failed ge
  · rw [if_neg authorized]

/-- **Every entry of a log tells about one step of the store.** -/
theorem exists_event (now : Instant) (request : Request) : ∃ event : Event,
    Store.perform config s event.1 = (event.2, (respond config now request s).2) ∧
      Tells (request, (respond config now request s).1) event := by
  by_cases lt : (respond config now request s).1.status < 400
  · obtain ⟨-, op, response, asked, success, same⟩ := exists_success orderly lt
    have fields : (respond config now request s).1.fields = response.fields := by
      rw [same]
      split <;> rfl
    exact exists_event_of_success orderly asked lt fields success
  · refine ⟨(.list {}, (Store.perform config s (.list {})).1), ?_, tells_of_idle rfl ?_ ?_ ?_⟩
    · rw [snd_respond_of_refused orderly (Nat.le_of_not_lt lt)]
      rfl
    · intro name
      unfold deletes
      split <;> simp [lt]
    · intro name i
      unfold accepts
      split <;> simp [lt]
    · intro name
      exact if_neg fun h => lt h.2

end Entries

/-! ## 3. Whole logs -/

section Logs

variable {config : ServerConfig} {start s : Store} {log : List Entry}

/-- **A log tells about a run of the store**, step by step. -/
theorem Serves.exists_run (served : Serves config start log s) (h : Reachable config start) :
    ∃ events, Run config start events s ∧
      (∀ name, events.map (removes name) = log.map (deletes name)) ∧
      (∀ name i, events.map (reports name i) = log.map (accepts name i)) ∧
      ∀ name, events.map (fun event => (givenId? name event).map (trialPath name)) =
        log.map (handed? name) := by
  induction served with
  | start => exact ⟨[], .start, fun _ => rfl, fun _ _ => rfl, fun _ => rfl⟩
  | @step log s served now request ih =>
    obtain ⟨events, run, removed, reported, given⟩ := ih
    obtain ⟨⟨op, r⟩, done, tells⟩ :=
      exists_event (served.reachable h).isOrderly now request
    have more := run.step op
    rw [done] at more
    refine ⟨_, more, ?_, ?_, ?_⟩
    · intro name
      rw [List.map_append, List.map_append, removed, List.map_singleton, List.map_singleton,
        tells.removed]
    · intro name i
      rw [List.map_append, List.map_append, reported, List.map_singleton, List.map_singleton,
        tells.reported]
    · intro name
      rw [List.map_append, List.map_append, given, List.map_singleton, List.map_singleton,
        tells.given]

/-- **As long as nobody deletes an experiment**, its report links are handed out one by one, and of
    each trial one report is taken at most. -/
theorem Serves.evolution (served : Serves config start log s) (h : Reachable config start)
    {name : String} {e : StoredExperiment} (stored : start.get? name = some e)
    (kept : ∀ entry ∈ log, deletes name entry = false) : ∃ e', s.get? name = some e' ∧
      log.filterMap (handed? name) = (List.range' (e.trials.length + 1)
        (e'.trials.length - e.trials.length)).map (trialPath name) ∧
      ∀ i, log.countP (accepts name i) ≤ 1 := by
  obtain ⟨events, run, removed, reported, given⟩ := served.exists_run h
  have steady : ∀ event ∈ events, removes name event = false := by
    intro event mem
    have told : removes name event ∈ log.map (deletes name) := by
      rw [← removed]
      exact List.mem_map_of_mem mem
    obtain ⟨entry, mem, same⟩ := List.mem_map.mp told
    rw [← same]
    exact kept entry mem
  obtain ⟨e', stored', evolved⟩ := run.evolution steady stored
  refine ⟨e', stored', ?_, fun i => ?_⟩
  · have links := congrArg (List.filterMap id) (given name)
    rw [List.filterMap_map, List.filterMap_map, Function.id_comp, Function.id_comp] at links
    rw [← evolved.ids, List.map_filterMap, links]
  · have counts : log.countP (accepts name i) = events.countP (reports name i) := by
      have count := congrArg (List.countP id) (reported name i)
      rw [List.countP_map, List.countP_map] at count
      exact count.symm
    rcases evolved.once i with none | ⟨one, -, -⟩
    · omega
    · omega

end Logs

/-! ## 4. What an entry needs -/

section Needs

variable {name : String} {op : Store.Operation} {r : Store.Result}
  {entry entry' : Option StoredExperiment}

/-- A step that gives a trial needs the experiment. -/
theorem exists_of_givenId? (turn : Turn name op r entry entry') {id : Nat}
    (given : givenId? name (op, r) = some id) : ∃ e, entry = some e := by
  cases turn with
  | idle idle =>
    rw [Store.givenId?_of_idle idle] at given
    cases given
  | created valid => cases given
  | updated valid same => exact ⟨_, rfl⟩
  | deleted => exact ⟨_, rfl⟩
  | dispensed unspent free => exact ⟨_, rfl⟩
  | proposed known => exact ⟨_, rfl⟩
  | reported active admitted => exact ⟨_, rfl⟩

/-- A step that takes a report needs the trial. -/
theorem exists_of_reports (turn : Turn name op r entry entry') {i : Nat}
    (reported : reports name i (op, r) = true) : ∃ e, entry = some e ∧ i < e.trials.length := by
  cases turn with
  | idle idle =>
    rw [Store.reports_of_idle idle] at reported
    cases reported
  | @reported e id outcome j t active admitted =>
    obtain ⟨place, trial, -⟩ := Store.activeTrial?_eq_some.mp active
    have same : j = i := by simpa [reports, place] using reported
    exact ⟨e, rfl, same ▸ (List.getElem?_eq_some_iff.mp trial).1⟩
  | _ => cases reported

/-- A step that leaves the experiment there has not removed it. -/
theorem removes_eq_false_of_some {e' : StoredExperiment} (turn : Turn name op r entry (some e')) :
    removes name (op, r) = false := by
  cases turn with
  | idle idle =>
    unfold removes
    split
    · rename_i n _ same
      cases same
      cases idle with
      | elsewhere other => simpa [Store.Operation.target?] using other
      | looked read => cases read
    · rfl
  | _ => rfl

/-- Where a trial stands after a step, it stood before, or the step gave it. -/
theorem trial_of_turn {e' : StoredExperiment} (turn : Turn name op r entry (some e')) {i : Nat}
    (lt : i < e'.trials.length) :
    (∃ e, entry = some e ∧ i < e.trials.length) ∨ givenId? name (op, r) = some (i + 1) := by
  cases turn with
  | idle idle => exact .inl ⟨e', rfl, lt⟩
  | created valid => exact absurd lt (Nat.not_lt_zero i)
  | updated valid same => exact .inl ⟨_, rfl, lt⟩
  | @dispensed e unspent free =>
    rw [StoredExperiment.length_addTrial] at lt
    rcases Nat.lt_or_eq_of_le (Nat.le_of_lt_succ lt) with before | rfl
    · exact .inl ⟨e, rfl, before⟩
    · exact .inr (if_pos rfl)
  | @proposed e assignments known =>
    rw [StoredExperiment.length_addTrial] at lt
    rcases Nat.lt_or_eq_of_le (Nat.le_of_lt_succ lt) with before | rfl
    · exact .inl ⟨e, rfl, before⟩
    · exact .inr (if_pos rfl)
  | @reported e id outcome j t active admitted =>
    rw [StoredExperiment.length_settle] at lt
    exact .inl ⟨e, rfl, lt⟩

end Needs

section Reached

variable {config : ServerConfig} {s : Store} (orderly : IsOrderly s) {now : Instant}
  {request : Request} {name : String}

include orderly

/-- A link that is handed out is the link of a trial of a stored experiment. -/
theorem exists_stored_of_handed {link : String}
    (handed : handed? name (request, (respond config now request s).1) = some link) :
    ∃ e id, s.get? name = some e ∧ link = trialPath name id := by
  obtain ⟨⟨op, r⟩, done, tells⟩ := exists_event orderly now request
  rw [← tells.given, Option.map_eq_some_iff] at handed
  obtain ⟨id, given, rfl⟩ := handed
  have turn := Store.turn_perform config s op name
  rw [done] at turn
  obtain ⟨e, stored⟩ := exists_of_givenId? turn given
  exact ⟨e, id, stored, rfl⟩

/-- A report that is taken is one of a trial that is there. -/
theorem exists_stored_of_accepts {i : Nat}
    (accepted : accepts name i (request, (respond config now request s).1) = true) :
    ∃ e, s.get? name = some e ∧ i < e.trials.length := by
  obtain ⟨⟨op, r⟩, done, tells⟩ := exists_event orderly now request
  rw [← tells.reported] at accepted
  have turn := Store.turn_perform config s op name
  rw [done] at turn
  exact exists_of_reports turn accepted

end Reached

/-- **Whatever trial there is, its link was handed out**, and its experiment not deleted since. -/
theorem Serves.exists_handed {config : ServerConfig} {log : List Entry} {s : Store}
    (served : Serves config .empty log s) {name : String} {e : StoredExperiment}
    (stored : s.get? name = some e) {i : Nat} (lt : i < e.trials.length) :
    ∃ before entry after, log = before ++ entry :: after ∧
      handed? name entry = some (trialPath name (i + 1)) ∧
      ∀ later ∈ after, deletes name later = false := by
  induction served generalizing e with
  | start => cases stored
  | @step log s served now request ih =>
    have orderly := (served.reachable .start).isOrderly
    obtain ⟨⟨op, r⟩, done, tells⟩ := exists_event orderly now request
    have turn := Store.turn_perform config s op name
    rw [done, stored] at turn
    have kept : deletes name (request, (respond config now request s).1) = false := by
      rw [← tells.removed]
      exact removes_eq_false_of_some turn
    rcases trial_of_turn turn lt with ⟨e₀, stored₀, lt₀⟩ | given
    · obtain ⟨before, entry, after, rfl, handed, rest⟩ := ih stored₀ lt₀
      refine ⟨before, entry, after ++ [_], by rw [List.append_assoc, List.cons_append], handed, ?_⟩
      intro later mem
      rcases List.mem_append.mp mem with mem | mem
      · exact rest later mem
      · rw [List.mem_singleton.mp mem]
        exact kept
    · refine ⟨log, _, [], rfl, ?_, fun later mem => by cases mem⟩
      rw [← tells.given, given]
      rfl

/-! ## 5. Report links -/

/-- **Report links in a log**: what holds of them until their experiment is deleted. -/
structure IsOneTime (log : List Entry) : Prop where
  /-- Where a link is handed out twice, it names the same experiment, which was deleted in between. -/
  handed : ∀ before x between y after name name' link,
    log = before ++ x :: between ++ y :: after →
    handed? name x = some link → handed? name' y = some link →
    name' = name ∧ ∃ z ∈ between, deletes name z = true
  /-- Where two reports of a trial are taken, its experiment was deleted in between. -/
  accepted : ∀ before x between y after name i, log = before ++ x :: between ++ y :: after →
    accepts name i x = true → accepts name i y = true → ∃ z ∈ between, deletes name z = true
  /-- Where a report is taken, the link of the trial was handed out before, and its experiment has not
      been deleted since: it is a report of the trial that the link was last handed out for. -/
  backed : ∀ before y after name i, log = before ++ y :: after → accepts name i y = true →
    ∃ earlier x between, before = earlier ++ x :: between ∧
      handed? name x = some (trialPath name (i + 1)) ∧ ∀ z ∈ between, deletes name z = false

/-- An entry with a trial deletes nothing. -/
theorem deletes_of_handed {name link : String} {entry : Entry} (h : handed? name entry = some link)
    (n : String) : deletes n entry = false := by
  unfold handed? at h
  split at h
  · rename_i asked
    unfold deletes
    split
    · rename_i other
      rw [other] at asked
      cases asked.1
    · rfl
  · cases h

/-- Nor does one with a report. -/
theorem deletes_of_accepts {name : String} {i : Nat} {entry : Entry}
    (h : accepts name i entry = true) (n : String) : deletes n entry = false := by
  unfold accepts at h
  split at h
  · rename_i asked
    simp [deletes, asked]
  · cases h

/-- If no entry of a stretch deletes the experiment but perhaps some in the middle, and none of these
    does, then none does. -/
theorem steady_of_between {name : String} {x y : Entry} {between : List Entry}
    (first : deletes name x = false) (last : deletes name y = false)
    (none : ¬∃ z ∈ between, deletes name z = true) :
    ∀ z ∈ x :: between ++ [y], deletes name z = false := by
  intro z mem
  rw [List.cons_append, List.mem_cons, List.mem_append, List.mem_singleton] at mem
  rcases mem with rfl | mem | rfl
  · exact first
  · exact Bool.eq_false_iff.mpr fun deleted => none ⟨z, mem, deleted⟩
  · exact last

/-- **In every log of a server, report links are for one time until their experiment is deleted.** -/
theorem isOneTime {config : ServerConfig} {log : List Entry} {s : Store}
    (served : Serves config .empty log s) : IsOneTime log := by
  constructor
  case handed =>
    intro before x between y after name name' link hlog first second
    rw [hlog] at served
    obtain ⟨t, u, now, begun, stretch, hx⟩ := served.exists_stretch
    have orderly := (begun.reachable .start).isOrderly
    obtain ⟨v, now', until_y, hy, -⟩ := stretch.exists_last
    have orderly' := (until_y.reachable (begun.reachable .start)).isOrderly
    rw [hx] at first
    rw [hy] at second
    obtain ⟨e, id, stored, here⟩ := exists_stored_of_handed orderly first
    obtain ⟨e', id', stored', there⟩ := exists_stored_of_handed orderly' second
    rw [← hx] at first
    rw [← hy] at second
    have same : Resource.trial name' id' = .trial name id :=
      Resource.link_injective (orderly'.isWellFormed _ _ stored') (orderly.isWellFormed _ _ stored)
        (there.symm.trans here)
    cases same
    refine ⟨rfl, Classical.byContradiction fun none => ?_⟩
    -- without a deletion the ids would be given out one after the other
    obtain ⟨e', -, links, -⟩ := stretch.evolution (begun.reachable .start) stored
      (steady_of_between (deletes_of_handed first _) (deletes_of_handed second _) none)
    have nodup : ((x :: between ++ [y]).filterMap (handed? name)).Nodup := by
      rw [links]
      refine List.Nodup.map (fun a b hab => ?_) List.nodup_range'
      have trials : Resource.trial name a = .trial name b :=
        Resource.link_injective (orderly.isWellFormed _ _ stored)
          (orderly.isWellFormed _ _ stored) hab
      cases trials
      rfl
    rw [List.filterMap_append, List.filterMap_cons_some first, List.filterMap_cons_some second,
      List.filterMap_nil, List.cons_append, List.nodup_cons] at nodup
    exact nodup.1 (List.mem_append_right _ (List.mem_singleton_self _))
  case accepted =>
    intro before x between y after name i hlog first second
    rw [hlog] at served
    obtain ⟨t, u, now, begun, stretch, hx⟩ := served.exists_stretch
    have orderly := (begun.reachable .start).isOrderly
    rw [hx] at first
    obtain ⟨e, stored, -⟩ := exists_stored_of_accepts orderly first
    rw [← hx] at first
    refine Classical.byContradiction fun none => ?_
    obtain ⟨e', -, -, once⟩ := stretch.evolution (begun.reachable .start) stored
      (steady_of_between (deletes_of_accepts first _) (deletes_of_accepts second _) none)
    have twice := once i
    rw [List.countP_append, List.countP_cons_of_pos first, List.countP_cons_of_pos second] at twice
    omega
  case backed =>
    intro before y after name i hlog accepted
    have parts : log = (before ++ [y]) ++ after := by simp [hlog]
    rw [parts] at served
    obtain ⟨u, until_y, -⟩ := served.exists_between
    obtain ⟨t, now, begun, hy, -⟩ := until_y.exists_last
    rw [hy] at accepted
    obtain ⟨e, stored, lt⟩ :=
      exists_stored_of_accepts (begun.reachable .start).isOrderly accepted
    exact begun.exists_handed stored lt

/-! ## 6. After a deletion -/

/-- What a server is asked by somebody who runs a trial, deletes the experiment, creates it anew and
    runs a trial again. -/
def sampleRequests : List Request :=
  let put : Request :=
    { method := "PUT"
      target := "/experiments/a".toList
      body := Utf8.encode Experiment.sample.toJson }
  let ask : Request := { method := "POST", target := "/experiments/a/nextTrial".toList }
  let report : Request :=
    { method := "POST"
      target := "/experiments/a/trials/1".toList
      body := Utf8.encode (TrialValues.toJson { failed := true }) }
  let delete : Request := { method := "DELETE", target := "/experiments/a".toList }
  [put, ask, report, delete, put, ask, report]

/-- The log of some requests, answered one after the other, and the store that they lead to. -/
def serveAll (config : ServerConfig) (now : Instant) (s : Store) : List Request → List Entry × Store
  | [] => ([], s)
  | request :: rest =>
    let (response, s) := respond config now request s
    let (log, s) := serveAll config now s rest
    ((request, response) :: log, s)

theorem serves_serveAll {config : ServerConfig} {start s : Store} {log : List Entry}
    (served : Serves config start log s) (now : Instant) (requests : List Request) :
    Serves config start (log ++ (serveAll config now s requests).1)
      (serveAll config now s requests).2 := by
  induction requests generalizing log s with
  | nil =>
    rw [serveAll, List.append_nil]
    exact served
  | cons request rest ih =>
    have more := ih (served.step now request)
    rw [List.append_assoc, List.singleton_append] at more
    exact more

/-- The log of that somebody. -/
def sampleLog : List Entry :=
  (serveAll {} ⟨0, false⟩ .empty sampleRequests).1

theorem serves_sampleLog : ∃ s, Serves {} .empty sampleLog s := by
  have empty : Serves {} .empty [] .empty := .start
  have served := serves_serveAll empty ⟨0, false⟩ sampleRequests
  rw [List.nil_append, ← sampleLog] at served
  exact ⟨_, served⟩

/-- Its links are for one time, and the one that comes twice does so after a deletion. -/
theorem isOneTime_sample : ∃ s, Serves {} .empty sampleLog s ∧ IsOneTime sampleLog ∧
    sampleLog.any (deletes "a") = true := by
  obtain ⟨s, served⟩ := serves_sampleLog
  exact ⟨s, served, isOneTime served, by decide +kernel⟩

/-- **Over a whole run a link is not for one time**: one link is handed out twice, and a report is
    taken each time. -/
theorem not_handed_once : ¬∀ config log s, Serves config .empty log s → ∀ name,
    (log.filterMap (handed? name)).Nodup ∨ ∀ i, log.countP (accepts name i) ≤ 1 := by
  intro all
  obtain ⟨s, served⟩ := serves_sampleLog
  have twice : sampleLog.filterMap (handed? "a") =
      ["/experiments/a/trials/1", "/experiments/a/trials/1"] := by decide +kernel
  have taken : sampleLog.countP (accepts "a" 0) = 2 := by decide +kernel
  rcases all _ _ _ served "a" with once | once
  · rw [twice] at once
    exact absurd once (by decide)
  · have le := once 0
    omega

end TrialProtocol.Server
