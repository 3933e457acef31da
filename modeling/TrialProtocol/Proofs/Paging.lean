import TrialProtocol.Proofs.Listing

/-!
# Pages and their neighbours

A page is a stretch of the experiments in the order of the bytes of their names. Where an experiment
stands in that order is its *rank*, the number of stored names below its own. So a page is what lies
between two ranks, and its neighbours are the stretches behind it and before it.

* `Store.getElem?_toList_iff`: the store lists its experiments by rank.
* `Store.next_page`, `Store.prev_page`: the queries of the neighbours, as numbers without a limit.
* `Store.walkBack_eq`: from any page to the first one, link by link. The offset is what falls; it is
  cut at zero once, in the last step.
* `Store.isPaged`: all this about one page.
-/

namespace TrialProtocol

/-- The place of a member of a rising list is the number of members below it. -/
theorem countP_of_pairwise {α : Type} {r : α → α → Prop} [DecidableRel r]
    (asymm : ∀ a b, r a b → ¬r b a) {xs : List α} (rising : xs.Pairwise r) {i : Nat} {x : α}
    (here : xs[i]? = some x) : xs.countP (fun y => r y x) = i := by
  induction xs generalizing i with
  | nil => cases here
  | cons y ys ih =>
    obtain ⟨first, rising⟩ := List.pairwise_cons.mp rising
    cases i with
    | zero =>
      cases here
      refine List.countP_eq_zero.mpr fun z hz => ?_
      rw [decide_eq_true_eq]
      rcases List.mem_cons.mp hz with rfl | hz
      · exact fun h => asymm _ _ h h
      · exact asymm _ _ (first z hz)
    | succ i =>
      rw [List.getElem?_cons_succ] at here
      have below : r y x := first x (List.mem_of_getElem? here)
      have counted := List.countP_cons_of_pos (p := fun y => decide (r y x)) (l := ys)
        (decide_eq_true below)
      rw [counted, ih rising here]

namespace Store

/-! ## 1. Ranks -/

/-- The number of stored names whose bytes come before those of a name. -/
def rank (s : Store) (name : String) : Nat :=
  s.names.countP fun other => Utf8.encode other.toList < Utf8.encode name.toList

/-- **The store lists its experiments by rank.** -/
theorem getElem?_toList_iff {s : Store} {i : Nat} {name : String} {e : StoredExperiment} :
    s.toList[i]? = some (name, e) ↔ s.get? name = some e ∧ s.rank name = i := by
  have ranked : ∀ {i name e}, s.toList[i]? = some (name, e) → s.rank name = i := by
    intro i name e here
    refine countP_of_pairwise (r := fun a b : String => Utf8.encode a.toList < Utf8.encode b.toList)
      (fun a b => List.lt_asymm) s.pairwise_names ?_
    rw [NameMap.names, List.getElem?_map, here]
    rfl
  constructor
  · intro here
    exact ⟨NameMap.mem_toList_iff.mp (List.mem_of_getElem? here), ranked here⟩
  · rintro ⟨stored, rfl⟩
    obtain ⟨j, here⟩ := List.mem_iff_getElem?.mp (NameMap.mem_toList_iff.mpr stored)
    rwa [ranked here]

/-- A rank is a place in the list. -/
theorem rank_lt_size {s : Store} {name : String} {e : StoredExperiment}
    (stored : s.get? name = some e) : s.rank name < s.size := by
  obtain ⟨lt, -⟩ := List.getElem?_eq_some_iff.mp (getElem?_toList_iff.mpr ⟨stored, rfl⟩)
  exact lt

/-- Every place in the list is a rank. -/
theorem exists_of_lt_size {s : Store} {i : Nat} (lt : i < s.size) :
    ∃ name e, s.get? name = some e ∧ s.rank name = i :=
  ⟨_, _, getElem?_toList_iff.mp (List.getElem?_eq_getElem lt)⟩

/-- There are experiments from a place on just if the list goes so far. -/
theorem exists_rank_iff {s : Store} {n : Nat} :
    (∃ name e, s.get? name = some e ∧ n ≤ s.rank name) ↔ n < s.size := by
  constructor
  · rintro ⟨name, e, stored, le⟩
    exact Nat.lt_of_le_of_lt le (rank_lt_size stored)
  · intro lt
    obtain ⟨name, e, stored, rank⟩ := exists_of_lt_size lt
    exact ⟨name, e, stored, Nat.le_of_eq rank.symm⟩

/-! ## 2. One page -/

variable {s : Store} {pageSize : UInt32} {q : PageQuery}

/-- A page holds at least one experiment, if there is one to hold. -/
theorem pageLimit_pos (pageSize : UInt32) (q : PageQuery) : 0 < (pageLimit pageSize q).toNat :=
  Nat.pos_of_ne_zero fun zero => pageLimit_ne_zero pageSize q (UInt32.toNat_inj.mp zero)

/-- A query that names the limit of a page has the same limit. -/
theorem pageLimit_eq {q' : PageQuery} (h : q'.limit = pageLimit pageSize q) :
    pageLimit pageSize q' = pageLimit pageSize q := by
  rw [pageLimit_of_ne_zero (by rw [h]; exact pageLimit_ne_zero pageSize q), h]

/-- **A page holds the experiments from one rank on.** -/
theorem getElem?_page_iff {i : Nat} {item : ExperimentItem} :
    (s.page pageSize q).experiments[i]? = some item ↔
      i < (pageLimit pageSize q).toNat ∧ ∃ name e, s.get? name = some e ∧
        s.rank name = q.offset.toNat + i ∧ item = listed (name, e) := by
  rw [experiments_page, List.getElem?_map, List.getElem?_take, List.getElem?_drop]
  constructor
  · intro here
    obtain ⟨⟨name, e⟩, found, rfl⟩ := Option.map_eq_some_iff.mp here
    split at found
    · rename_i lt
      obtain ⟨stored, rank⟩ := getElem?_toList_iff.mp found
      exact ⟨lt, name, e, stored, rank, rfl⟩
    · cases found
  · rintro ⟨lt, name, e, stored, rank, rfl⟩
    rw [if_pos lt, getElem?_toList_iff.mpr ⟨stored, rank⟩]
    rfl

theorem mem_page {name : String} {e : StoredExperiment} (stored : s.get? name = some e)
    (le : q.offset.toNat ≤ s.rank name)
    (lt : s.rank name < q.offset.toNat + (pageLimit pageSize q).toNat) :
    listed (name, e) ∈ (s.page pageSize q).experiments :=
  List.mem_iff_getElem?.mpr ⟨s.rank name - q.offset.toNat, getElem?_page_iff.mpr
    ⟨by omega, name, e, stored, by omega, rfl⟩⟩

theorem length_page : (s.page pageSize q).experiments.length =
    min s.size (q.offset.toNat + (pageLimit pageSize q).toNat) - q.offset.toNat := by
  have size : s.size = s.toList.length := rfl
  rw [experiments_page, List.length_map, List.length_take, List.length_drop]
  omega

/-- Every page but the first has one before it, which starts as far in front as a page is long, or at
    the beginning. -/
theorem prev_page (s : Store) (pageSize : UInt32) (q : PageQuery) :
    (q.offset.toNat = 0 ∧ (s.page pageSize q).prev = none) ∨
    (0 < q.offset.toNat ∧ ∃ q', (s.page pageSize q).prev = some q' ∧
      q'.offset.toNat = q.offset.toNat - (pageLimit pageSize q).toNat ∧
      q'.limit = pageLimit pageSize q) := by
  unfold page
  simp only
  generalize pageLimit pageSize q = limit
  by_cases zero : q.offset = 0
  · exact .inl ⟨congrArg UInt32.toNat zero, if_pos zero⟩
  · have pos : 0 < q.offset.toNat := Nat.pos_of_ne_zero fun h => zero (UInt32.toNat_inj.mp h)
    have word := Nat.lt_of_le_of_lt (Nat.sub_le _ limit.toNat) q.offset.toNat_lt_size
    exact .inr ⟨pos, _, if_neg zero, UInt32.toNat_ofNat_of_lt' word, rfl⟩

/-- A query is its two numbers. -/
theorem query_eq {q q' : PageQuery} (offset : q.offset.toNat = q'.offset.toNat)
    (limit : q.limit = q'.limit) : q = q' := by
  obtain ⟨o, l⟩ := q
  obtain ⟨o', l'⟩ := q'
  cases UInt32.toNat_inj.mp offset
  cases limit
  rfl

theorem next_eq_some_iff (few : s.size ≤ UInt32.size - 1) {q' : PageQuery} :
    (s.page pageSize q).next = some q' ↔ q.offset.toNat + (pageLimit pageSize q).toNat < s.size ∧
      q'.offset.toNat = q.offset.toNat + (pageLimit pageSize q).toNat ∧
      q'.limit = pageLimit pageSize q := by
  rcases next_page few pageSize q with ⟨le, none⟩ | ⟨lt, found, next, offset, limit⟩
  · rw [none]
    constructor
    · intro h
      cases h
    · rintro ⟨lt, -⟩
      omega
  · rw [next]
    constructor
    · rintro ⟨⟩
      exact ⟨lt, offset, limit⟩
    · rintro ⟨-, offset', limit'⟩
      rw [query_eq (offset.trans offset'.symm) (limit.trans limit'.symm)]

theorem prev_eq_some_iff {q' : PageQuery} :
    (s.page pageSize q).prev = some q' ↔ 0 < q.offset.toNat ∧
      q'.offset.toNat = q.offset.toNat - (pageLimit pageSize q).toNat ∧
      q'.limit = pageLimit pageSize q := by
  rcases prev_page s pageSize q with ⟨zero, none⟩ | ⟨pos, found, prev, offset, limit⟩
  · rw [none]
    constructor
    · intro h
      cases h
    · rintro ⟨pos, -⟩
      omega
  · rw [prev]
    constructor
    · rintro ⟨⟩
      exact ⟨pos, offset, limit⟩
    · rintro ⟨-, offset', limit'⟩
      rw [query_eq (offset.trans offset'.symm) (limit.trans limit'.symm)]

/-- **The page before the next one is the page itself.** -/
theorem exists_prev_of_next (few : s.size ≤ UInt32.size - 1) {q' : PageQuery}
    (next : (s.page pageSize q).next = some q') :
    ∃ q'', (s.page pageSize q').prev = some q'' ∧ q''.offset = q.offset ∧
      q''.limit = pageLimit pageSize q ∧ s.page pageSize q'' = s.page pageSize q := by
  have pos := pageLimit_pos pageSize q
  obtain ⟨-, offset, limit⟩ := (next_eq_some_iff few).mp next
  have same := pageLimit_eq limit
  have back : (s.page pageSize q').prev = some { offset := q.offset, limit := pageLimit pageSize q } :=
    prev_eq_some_iff.mpr ⟨by omega, by rw [offset, same]; dsimp only; omega, same.symm⟩
  refine ⟨_, back, rfl, rfl, ?_⟩
  unfold page
  rw [pageLimit_eq rfl]

/-- **The page before reaches up to this one.** -/
theorem exists_mem_prev {q' : PageQuery} (prev : (s.page pageSize q).prev = some q')
    (le : q.offset.toNat ≤ s.size) : ∃ name e, s.get? name = some e ∧
      s.rank name + 1 = q.offset.toNat ∧ listed (name, e) ∈ (s.page pageSize q').experiments := by
  have pos := pageLimit_pos pageSize q
  obtain ⟨behind, offset, limit⟩ := prev_eq_some_iff.mp prev
  obtain ⟨name, e, stored, rank⟩ := exists_of_lt_size (s := s) (i := q.offset.toNat - 1) (by omega)
  refine ⟨name, e, stored, by omega, mem_page stored (by omega) ?_⟩
  rw [pageLimit_eq limit]
  omega

/-! ## 3. Walking back -/

/-- The query that so many links to the page before lead to. -/
def walkBack (s : Store) (pageSize : UInt32) (q : PageQuery) : Nat → Option PageQuery
  | 0 => some q
  | k + 1 => (s.walkBack pageSize q k).bind fun q' => (s.page pageSize q').prev

/-- The number of pages of a size that it takes to cover what lies before an offset. -/
def pagesBefore (offset size : Nat) : Nat :=
  (offset + size - 1) / size

theorem lt_pagesBefore_iff (offset k : Nat) {size : Nat} (pos : 0 < size) :
    k < pagesBefore offset size ↔ k * size < offset := by
  rw [pagesBefore, ← Nat.succ_le_iff, Nat.le_div_iff_mul_le pos, Nat.succ_mul]
  omega

/-- **Walking back takes as many steps as there are pages before**, each as long as a page. -/
theorem walkBack_eq (s : Store) (pageSize : UInt32) (q : PageQuery) (k : Nat) :
    (pagesBefore q.offset.toNat (pageLimit pageSize q).toNat < k ∧
      s.walkBack pageSize q k = none) ∨
    (k ≤ pagesBefore q.offset.toNat (pageLimit pageSize q).toNat ∧
      ∃ q', s.walkBack pageSize q k = some q' ∧
        q'.offset.toNat = q.offset.toNat - k * (pageLimit pageSize q).toNat ∧
        pageLimit pageSize q' = pageLimit pageSize q) := by
  have pos := pageLimit_pos pageSize q
  induction k with
  | zero => exact .inr ⟨Nat.zero_le _, q, rfl, by omega, rfl⟩
  | succ k ih =>
    rw [walkBack]
    rcases ih with ⟨lt, ended⟩ | ⟨le, q', there, offset, limit⟩
    · exact .inl ⟨by omega, by rw [ended]; rfl⟩
    · rw [there, Option.bind_some]
      have more := lt_pagesBefore_iff q.offset.toNat k pos
      rcases prev_page s pageSize q' with ⟨zero, none⟩ | ⟨behind, q'', prev, offset', limit'⟩
      · exact .inl ⟨by omega, none⟩
      · have same := pageLimit_eq limit'
        refine .inr ⟨by omega, q'', prev, ?_, same.trans limit⟩
        rw [offset', limit, offset, Nat.succ_mul]
        omega

/-- **Nothing is skipped on the way back**: what lies before a page is on one of the pages passed. -/
theorem exists_walkBack {name : String} {e : StoredExperiment} (stored : s.get? name = some e)
    (before : s.rank name < q.offset.toNat) : ∃ k q', 0 < k ∧
      s.walkBack pageSize q k = some q' ∧ listed (name, e) ∈ (s.page pageSize q').experiments := by
  have pos := pageLimit_pos pageSize q
  -- as many steps as pages fit between the experiment and the offset
  generalize steps : pagesBefore (q.offset.toNat - s.rank name) (pageLimit pageSize q).toNat = k
  have far : ¬k * (pageLimit pageSize q).toNat < q.offset.toNat - s.rank name := by
    rw [← lt_pagesBefore_iff _ _ pos, steps]
    exact Nat.lt_irrefl k
  obtain ⟨k, rfl⟩ : ∃ j, k = j + 1 := by
    refine ⟨k - 1, ?_⟩
    rcases Nat.eq_zero_or_pos k with rfl | h
    · omega
    · omega
  have near : k * (pageLimit pageSize q).toNat < q.offset.toNat - s.rank name := by
    rw [← lt_pagesBefore_iff _ _ pos, steps]
    exact Nat.lt_succ_self k
  rw [Nat.succ_mul] at far
  rcases walkBack_eq s pageSize q (k + 1) with ⟨lt, -⟩ | ⟨-, q', there, offset, limit⟩
  · have within := (lt_pagesBefore_iff q.offset.toNat k pos).mpr (by omega)
    omega
  · rw [Nat.succ_mul] at offset
    refine ⟨k + 1, q', Nat.succ_pos k, there, mem_page stored ?_ ?_⟩
    · omega
    · rw [limit]
      omega

/-! ## 4. Pages fit together -/

/-- **A page and its neighbours.** A page is a stretch of ranks, its neighbours begin where it ends and
    end where it begins, or earlier if there is no room, and no offset is cut but at zero. -/
structure IsPaged (s : Store) (pageSize : UInt32) (q : PageQuery) (size : Nat) : Prop where
  /-- The page starts at its offset and goes as far as it may, … -/
  item : ∀ i item, (s.page pageSize q).experiments[i]? = some item ↔
    i < size ∧ ∃ name e, s.get? name = some e ∧ s.rank name = q.offset.toNat + i ∧
      item = listed (name, e)
  /-- … or there are no more experiments. -/
  length : (s.page pageSize q).experiments.length =
    min s.size (q.offset.toNat + size) - q.offset.toNat
  /-- There is a next page just if experiments are left, and it starts right behind. -/
  next : ∀ q', (s.page pageSize q).next = some q' ↔
    (∃ name e, s.get? name = some e ∧ q.offset.toNat + size ≤ s.rank name) ∧
      q'.offset.toNat = q.offset.toNat + size ∧ q'.limit.toNat = size
  /-- The page before the next one is this page. -/
  back : ∀ q', (s.page pageSize q).next = some q' → ∃ q'', (s.page pageSize q').prev = some q'' ∧
    q''.offset = q.offset ∧ q''.limit.toNat = size ∧ s.page pageSize q'' = s.page pageSize q
  /-- There is a page before just if this is not the first one. -/
  prev : ∀ q', (s.page pageSize q).prev = some q' ↔
    0 < q.offset.toNat ∧ q'.offset.toNat = q.offset.toNat - size ∧ q'.limit.toNat = size
  /-- It has the experiment right before this page. -/
  before : ∀ q', (s.page pageSize q).prev = some q' → q.offset.toNat ≤ s.size →
    ∃ name e, s.get? name = some e ∧ s.rank name + 1 = q.offset.toNat ∧
      listed (name, e) ∈ (s.page pageSize q').experiments
  /-- It takes as many steps back as there are pages before, … -/
  walk : ∀ k, s.walkBack pageSize q k = none ↔ pagesBefore q.offset.toNat size < k
  /-- … the last of which leads to the first page, … -/
  first : ∀ k q', s.walkBack pageSize q k = some q' →
    (q'.offset = 0 ↔ k = pagesBefore q.offset.toNat size)
  /-- … and all experiments before this page are seen. -/
  seen : ∀ name e, s.get? name = some e → s.rank name < q.offset.toNat → ∃ k q', 0 < k ∧
    s.walkBack pageSize q k = some q' ∧ listed (name, e) ∈ (s.page pageSize q').experiments

/-- **The pages of a store fit together**, for every offset, aligned or not. -/
theorem isPaged {s : Store} (few : s.size ≤ UInt32.size - 1) (pageSize : UInt32) (q : PageQuery) :
    IsPaged s pageSize q (if q.limit = 0 then max pageSize.toNat 1 else q.limit.toNat) := by
  rw [← toNat_pageLimit]
  have walk := walkBack_eq s pageSize q
  exact
    { item := fun i item => getElem?_page_iff
      length := length_page
      next := fun q' => by rw [next_eq_some_iff few, exists_rank_iff, UInt32.toNat_inj]
      back := by
        intro q' next
        obtain ⟨q'', prev, offset, limit, same⟩ := exists_prev_of_next few next
        exact ⟨q'', prev, offset, congrArg UInt32.toNat limit, same⟩
      prev := fun q' => by rw [prev_eq_some_iff, UInt32.toNat_inj]
      before := fun q' => exists_mem_prev
      walk := by
        intro k
        rcases walk k with ⟨lt, none⟩ | ⟨le, q', there, -⟩
        · exact iff_of_true none lt
        · exact iff_of_false (by simp [there]) (by omega)
      first := by
        intro k q' there
        rcases walk k with ⟨-, none⟩ | ⟨le, found, there', offset, -⟩
        · rw [none] at there
          cases there
        · rw [there'] at there
          cases there
          have more := lt_pagesBefore_iff q.offset.toNat k
            (pageLimit_pos pageSize q)
          rw [← UInt32.toNat_inj, offset, UInt32.toNat_zero]
          omega
      seen := fun name e => exists_walkBack }

/-- Five experiments, one of them under a name that is not in ASCII. -/
def samplePages : Store :=
  .ofList (["b", "é", "a", "z", "ab"].map fun name =>
    (name, { experiment := Experiment.sample, lastModified := ⟨0, false⟩ }))

/-- Their pages fit together also where an offset is not aligned. -/
theorem isPaged_sample : samplePages.size ≤ UInt32.size - 1 ∧
    IsPaged samplePages 20 { offset := 3, limit := 2 } 2 ∧
    samplePages.walkBack 20 { offset := 3, limit := 2 } 2 = some { offset := 0, limit := 2 } := by
  have few : samplePages.size ≤ UInt32.size - 1 := by decide
  exact ⟨few, isPaged few 20 { offset := 3, limit := 2 }, by decide⟩

example : ((samplePages.page 20 { offset := 3, limit := 2 }).experiments.map (·.itemRef)) =
    [some "/experiments/z", some "/experiments/é"] := by decide

end Store

end TrialProtocol
