import TrialProtocol.Proofs.Store.Run

/-!
# Experiments are independent

All experiments stand in one map, but no operation mixes two of them. What an operation about a name
answers, and what it leaves there, depends on nothing but what stood there before, and it leaves every
other name alone.

* `alike_perform` says so of one operation, carried out in two stores that look the same to who looks
  at its name only.
* `Run.exists_project`: so what a run did about a name is a run of its own.
* `areIndependent`: operations about two names can be swapped, and runs that ask the same about every
  name come to the same store with the same answers, however they are interleaved.
-/

namespace TrialProtocol.Store

variable {config : ServerConfig}

/-! ## 1. One operation in two stores -/

/-- Two outcomes that look the same to who looks at one name only. -/
structure Alike (name : String) (x y : Result × Store) : Prop where
  answer : x.1 = y.1
  entry : x.2.get? name = y.2.get? name

section Alike

variable (config) {s t : Store} {name : String} (same : s.get? name = t.get? name)

include same

theorem alike_of_unchanged (r : Result) : Alike name (r, s) (r, t) :=
  ⟨rfl, same⟩

omit same in
theorem alike_of_insert (r : Result) (e : StoredExperiment) :
    Alike name (r, s.insert name e) (r, t.insert name e) :=
  ⟨rfl, by rw [NameMap.get?_insert, NameMap.get?_insert]; simp⟩

theorem find_congr : s.find name = t.find name := by
  rw [find, find, same]

theorem alike_put (now : Instant) (experiment : Experiment) :
    Alike name (perform config s (.put now name experiment))
      (perform config t (.put now name experiment)) := by
  simp only [perform, put, same]
  cases experiment.validate with
  | error why => exact alike_of_unchanged same _
  | ok u =>
    cases t.get? name with
    | none => exact alike_of_insert _ _
    | some e =>
      simp only
      split
      · exact alike_of_insert _ _
      · exact alike_of_unchanged same _

theorem alike_delete :
    Alike name (perform config s (.delete name)) (perform config t (.delete name)) := by
  simp only [perform, delete, find_congr same]
  cases t.find name with
  | error why => exact alike_of_unchanged same _
  | ok e => exact ⟨rfl, by simp [settle, Except.map]⟩

theorem alike_dispense :
    Alike name (perform config s (.dispense name)) (perform config t (.dispense name)) := by
  simp only [perform, dispense, find_congr same]
  cases t.find name with
  | error why => exact alike_of_unchanged same _
  | ok e =>
    simp only [bind, Except.bind]
    split
    · exact alike_of_unchanged same _
    · split
      · exact alike_of_unchanged same _
      · exact alike_of_insert _ _

theorem alike_createTrial (assignments : List Assignment) :
    Alike name (perform config s (.createTrial name assignments))
      (perform config t (.createTrial name assignments)) := by
  simp only [perform, createTrial, find_congr same]
  cases t.find name with
  | error why => exact alike_of_unchanged same _
  | ok e =>
    simp only [bind, Except.bind]
    split
    · exact alike_of_unchanged same _
    · exact alike_of_insert _ _

theorem alike_report (id : String) (outcome : TrialValues) :
    Alike name (perform config s (.report name id outcome))
      (perform config t (.report name id outcome)) := by
  simp only [perform, report, same]
  cases t.get? name with
  | none => exact alike_of_unchanged same _
  | some e =>
    simp only
    split
    · exact alike_of_unchanged same _
    · split
      · exact alike_of_insert _ _
      · split
        · exact alike_of_unchanged same _
        · exact alike_of_insert _ _

/-- **What an operation does about a name depends on nothing but what stands there.** -/
theorem alike_perform {op : Operation} (about : op.target? = some name) :
    Alike name (perform config s op) (perform config t op) := by
  cases op with
  | put now n experiment => cases about; exact alike_put config same now experiment
  | get n =>
    cases about
    simp only [perform, find_congr same]
    exact alike_of_unchanged same _
  | delete n => cases about; exact alike_delete config same
  | list q => cases about
  | dispense n => cases about; exact alike_dispense config same
  | createTrial n assignments => cases about; exact alike_createTrial config same assignments
  | listTrials n =>
    cases about
    simp only [perform, listTrials, find_congr same]
    exact alike_of_unchanged same _
  | report n id outcome => cases about; exact alike_report config same id outcome

end Alike

/-- **Operations about two names can be swapped**: the one is answered as if the other had not been
    there. -/
theorem perform_swap (config : ServerConfig) (s : Store) {a b : Operation} {m n : String}
    (first : a.target? = some m) (second : b.target? = some n) (ne : m ≠ n) :
    (perform config (perform config s a).2 b).1 = (perform config s b).1 ∧
      (perform config (perform config s a).2 b).2 = (perform config (perform config s b).2 a).2 := by
  have other : a.target? ≠ some n := fun h => ne (Option.some.inj (first.symm.trans h))
  have other' : b.target? ≠ some m := fun h => ne (Option.some.inj (second.symm.trans h)).symm
  have late := alike_perform config (get?_perform_of_ne config s other) second
  have late' := alike_perform config (get?_perform_of_ne config s other') first
  refine ⟨late.answer, NameMap.ext_get? fun k => ?_⟩
  by_cases here : k = m
  · subst here
    rw [get?_perform_of_ne config _ other']
    exact late'.entry.symm
  · by_cases there : k = n
    · subst there
      rw [get?_perform_of_ne config (perform config s b).2 other]
      exact late.entry
    · have away : a.target? ≠ some k := fun h => here (Option.some.inj (h.symm.trans first))
      have away' : b.target? ≠ some k := fun h => there (Option.some.inj (h.symm.trans second))
      rw [get?_perform_of_ne config _ away', get?_perform_of_ne config _ away,
        get?_perform_of_ne config _ away, get?_perform_of_ne config _ away']

/-! ## 2. What a run does about a name -/

/-- Whether a step of a run is about a name. -/
def isAbout (name : String) (event : Event) : Bool :=
  event.1.target? == some name

/-- **What a run did about a name is a run of its own**, with the same answers and the same result
    there. -/
theorem Run.exists_project {s t : Store} {events : List Event} (run : Run config s events t)
    (name : String) :
    ∃ u, Run config s (events.filter (isAbout name)) u ∧ u.get? name = t.get? name := by
  induction run with
  | start => exact ⟨s, .start, rfl⟩
  | @step events t run op ih =>
    obtain ⟨u, projected, same⟩ := ih
    rw [List.filter_append]
    by_cases about : op.target? = some name
    · have alike := alike_perform config same about
      have kept : isAbout name (op, (perform config t op).1) = true := beq_iff_eq.mpr about
      rw [List.filter_cons_of_pos kept, List.filter_nil, ← alike.answer]
      exact ⟨_, projected.step op, alike.entry⟩
    · have left : ¬isAbout name (op, (perform config t op).1) = true := fun h =>
        about (beq_iff_eq.mp h)
      rw [List.filter_cons_of_neg left, List.filter_nil, List.append_nil,
        get?_perform_of_ne config t about]
      exact ⟨u, projected, same⟩

/-- What is asked decides what is answered, and what is stored in the end. -/
theorem Run.unique {s t t' : Store} {events events' : List Event} (run : Run config s events t)
    (run' : Run config s events' t') (same : events.map (·.1) = events'.map (·.1)) :
    events = events' ∧ t = t' := by
  induction run generalizing events' t' with
  | start =>
    cases run' with
    | start => exact ⟨rfl, rfl⟩
    | step run' op => simp at same
  | @step events t run op ih =>
    cases run' with
    | start => simp at same
    | @step events' t' run' op' =>
      rw [List.map_append, List.map_append] at same
      obtain ⟨before, last⟩ := List.append_inj' same rfl
      obtain rfl : op = op' := List.singleton_inj.mp last
      obtain ⟨rfl, rfl⟩ := ih run' before
      exact ⟨rfl, rfl⟩

/-! ## 3. Independence -/

/-- **The experiments of a store are independent** of one another. -/
structure AreIndependent (config : ServerConfig) (s : Store) : Prop where
  /-- An operation leaves everything alone that stands under another name than its own, whether it is
      carried out or refused. -/
  untouched : ∀ (op : Operation) (name : String), op.target? ≠ some name →
    (perform config s op).2.get? name = s.get? name
  /-- Two operations about different names give the same answers in either order, and lead to the
      same store. -/
  swapped : ∀ {a b : Operation} {m n : String}, a.target? = some m → b.target? = some n → m ≠ n →
    (perform config (perform config s b).2 a).1 = (perform config s a).1 ∧
    (perform config (perform config s a).2 b).1 = (perform config s b).1 ∧
    (perform config (perform config s a).2 b).2 = (perform config (perform config s b).2 a).2
  /-- Two runs in which the same is asked about every name, in the same order, give the same answers
      about every name and lead to the same store. Listings may stand anywhere in them. -/
  interleaved : ∀ {events events' : List Event} {t t' : Store}, Run config s events t →
    Run config s events' t' →
    (∀ name, (events.filter (isAbout name)).map (·.1) =
      (events'.filter (isAbout name)).map (·.1)) →
    (∀ name, events.filter (isAbout name) = events'.filter (isAbout name)) ∧ t = t'

/-- **In every store experiments are independent.** -/
theorem areIndependent (config : ServerConfig) (s : Store) : AreIndependent config s where
  untouched _ _ other := get?_perform_of_ne config s other
  swapped first second ne :=
    ⟨(perform_swap config s second first ne.symm).1, perform_swap config s first second ne⟩
  interleaved {events events' t t'} run run' asked := by
    have projected : ∀ name, events.filter (isAbout name) = events'.filter (isAbout name) ∧
        t.get? name = t'.get? name := by
      intro name
      obtain ⟨u, part, same⟩ := run.exists_project name
      obtain ⟨u', part', same'⟩ := run'.exists_project name
      obtain ⟨equal, rfl⟩ := part.unique part' (asked name)
      exact ⟨equal, same.symm.trans same'⟩
    exact ⟨fun name => (projected name).1, NameMap.ext_get? fun name => (projected name).2⟩

/-- A trial of one experiment is dispensed and reported before the other experiment is created, or
    after; only who lists them in between can tell. -/
theorem areIndependent_sample : ∃ events events' t t', Run {} .empty events t ∧
    Run {} .empty events' t' ∧ events.map (·.1) ≠ events'.map (·.1) ∧
    (∀ name, events.filter (isAbout name) = events'.filter (isAbout name)) ∧ t = t' ∧
    t.names = ["a", "b"] := by
  have empty : Run {} .empty [] .empty := .start
  have run := empty
    |>.step (.put ⟨0, false⟩ "a" .sample)
    |>.step (.list {})
    |>.step (.dispense "a")
    |>.step (.report "a" "1" { failed := true })
    |>.step (.put ⟨1, false⟩ "b" .sample)
  have run' := empty
    |>.step (.put ⟨1, false⟩ "b" .sample)
    |>.step (.put ⟨0, false⟩ "a" .sample)
    |>.step (.dispense "a")
    |>.step (.list {})
    |>.step (.report "a" "1" { failed := true })
  obtain ⟨answers, same⟩ := (areIndependent {} .empty).interleaved run run' fun name => by
    by_cases a : name = "a"
    · subst a
      rfl
    · by_cases b : name = "b"
      · subst b
        rfl
      · have ha : ¬("a" = name) := fun h => a h.symm
        have hb : ¬("b" = name) := fun h => b h.symm
        simp [isAbout, Operation.target?, ha, hb]
  refine ⟨_, _, _, _, run, run', by simp, answers, same, by decide +kernel⟩

end TrialProtocol.Store
