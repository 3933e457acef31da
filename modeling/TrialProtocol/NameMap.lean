/-!
# Values under names

A finite map from names to values, kept as a list that rises by name. Names compare character by
character, which is also the order of their bytes.

* `toList` is the view: every entry once, rising.
* `get?_insert`, `get?_erase` say what each operation does to every name.
* `ext_get?`: maps with the same values under the same names are equal.
-/

namespace TrialProtocol

/-- Entries with names that rise. -/
def Rising {α : Type} (entries : List (String × α)) : Prop :=
  entries.Pairwise (fun a b => a.1 < b.1)

/-- A map from names to values. -/
structure NameMap (α : Type) where
  toList : List (String × α)
  rising : Rising toList

namespace NameMap

variable {α : Type}

instance [DecidableEq α] : DecidableEq (NameMap α) := fun a b =>
  if h : a.toList = b.toList then .isTrue (by cases a; cases b; simp_all)
  else .isFalse fun e => h (congrArg toList e)

/-! ## 1. Entries in order -/

/-- Puts an entry in its place, instead of one with the same name. -/
def insertEntry (name : String) (x : α) : List (String × α) → List (String × α)
  | [] => [(name, x)]
  | (n, y) :: rest =>
    if name < n then (name, x) :: (n, y) :: rest
    else if name = n then (name, x) :: rest
    else (n, y) :: insertEntry name x rest

theorem mem_insertEntry {name : String} {x : α} {entries : List (String × α)} {e : String × α}
    (h : e ∈ insertEntry name x entries) : e = (name, x) ∨ e ∈ entries := by
  induction entries with
  | nil => simpa [insertEntry] using h
  | cons a rest ih =>
    obtain ⟨n, y⟩ := a
    unfold insertEntry at h
    split at h
    · simpa using h
    · split at h
      · rcases List.mem_cons.1 h with h | h
        · exact .inl h
        · exact .inr (List.mem_cons_of_mem _ h)
      · rcases List.mem_cons.1 h with h | h
        · exact .inr (by simp [h])
        · rcases ih h with h | h
          · exact .inl h
          · exact .inr (List.mem_cons_of_mem _ h)

theorem rising_insertEntry {name : String} {x : α} {entries : List (String × α)}
    (h : Rising entries) : Rising (insertEntry name x entries) := by
  induction entries with
  | nil => simp [insertEntry, Rising]
  | cons a rest ih =>
    obtain ⟨n, y⟩ := a
    obtain ⟨ha, hrest⟩ := List.pairwise_cons.1 h
    unfold insertEntry
    split
    · rename_i hlt
      refine List.pairwise_cons.2 ⟨?_, h⟩
      intro b hb
      rcases List.mem_cons.1 hb with rfl | hb
      · exact hlt
      · exact String.lt_trans hlt (ha b hb)
    · split
      · rename_i _ heq
        subst heq
        exact List.pairwise_cons.2 ⟨ha, hrest⟩
      · rename_i hnlt hne
        refine List.pairwise_cons.2 ⟨?_, ih hrest⟩
        intro b hb
        rcases mem_insertEntry hb with rfl | hb
        · exact Std.lt_of_le_of_ne (Std.not_lt.1 hnlt) (Ne.symm hne)
        · exact ha b hb

/-! ## 2. Operations -/

/-- The map without entries. -/
def empty : NameMap α := ⟨[], List.Pairwise.nil⟩

/-- The value under a name. -/
def get? (m : NameMap α) (name : String) : Option α :=
  m.toList.lookup name

/-- Puts a value under a name. -/
def insert (m : NameMap α) (name : String) (x : α) : NameMap α :=
  ⟨insertEntry name x m.toList, rising_insertEntry m.rising⟩

/-- Removes what stands under a name. -/
def erase (m : NameMap α) (name : String) : NameMap α :=
  ⟨m.toList.filter (fun e => e.1 != name), m.rising.filter _⟩

/-- The names, rising. -/
def names (m : NameMap α) : List String :=
  m.toList.map (·.1)

/-- The number of entries. -/
def size (m : NameMap α) : Nat :=
  m.toList.length

/-- The map of entries given in any order; of two with one name the later counts. -/
def ofList (entries : List (String × α)) : NameMap α :=
  entries.foldl (fun m (n, x) => m.insert n x) empty

/-! ## 3. Looking up -/

theorem lookup_cons_eq (k n : String) (y : α) (rest : List (String × α)) :
    ((n, y) :: rest).lookup k = if k = n then some y else rest.lookup k := by
  by_cases hk : k = n
  · simp [hk]
  · have : (k == n) = false := by simpa using hk
    simp [List.lookup_cons, hk, this]

theorem lookup_insertEntry (name : String) (x : α) (entries : List (String × α)) (k : String) :
    (insertEntry name x entries).lookup k = if k = name then some x else entries.lookup k := by
  induction entries with
  | nil => rw [insertEntry, lookup_cons_eq]
  | cons a rest ih =>
    obtain ⟨n, y⟩ := a
    unfold insertEntry
    split
    · rw [lookup_cons_eq]
    · split
      · rename_i _ heq
        subst heq
        rw [lookup_cons_eq, lookup_cons_eq]
        split <;> rfl
      · rename_i _ hne
        rw [lookup_cons_eq, lookup_cons_eq, ih]
        by_cases hk : k = n
        · subst hk
          simp [Ne.symm hne]
        · simp [hk]

/-- Only the inserted name changes. -/
@[simp] theorem get?_insert (m : NameMap α) (name : String) (x : α) (k : String) :
    (m.insert name x).get? k = if k = name then some x else m.get? k :=
  lookup_insertEntry name x m.toList k

/-- Only the erased name changes. -/
@[simp] theorem get?_erase (m : NameMap α) (name k : String) :
    (m.erase name).get? k = if k = name then none else m.get? k := by
  unfold get? erase
  simp only
  induction m.toList with
  | nil => simp
  | cons a rest ih =>
    obtain ⟨n, y⟩ := a
    by_cases hn : n = name
    · subst hn
      simp only [List.filter_cons, bne_self_eq_false, Bool.false_eq_true, ↓reduceIte, ih]
      by_cases hk : k = n
      · simp [hk]
      · have : (k == n) = false := by simpa using hk
        simp [hk, List.lookup_cons, this]
    · have hn' : (n != name) = true := by simpa using hn
      simp only [List.filter_cons, hn', ↓reduceIte, List.lookup_cons, ih]
      by_cases hk : k = n
      · subst hk
        simp [hn]
      · have : (k == n) = false := by simpa using hk
        simp [this]

/-! ## 4. The list and the names -/

/-- The list holds what stands under the names. -/
theorem mem_toList_iff {m : NameMap α} {name : String} {x : α} :
    (name, x) ∈ m.toList ↔ m.get? name = some x := by
  obtain ⟨entries, rising⟩ := m
  unfold get?
  constructor
  · intro h
    induction entries with
    | nil => cases h
    | cons entry rest ih =>
      obtain ⟨n, y⟩ := entry
      obtain ⟨first, rising⟩ := List.pairwise_cons.1 rising
      rw [lookup_cons_eq]
      rcases List.mem_cons.1 h with here | there
      · cases here
        exact if_pos rfl
      · have hne : name ≠ n := by
          rintro rfl
          exact String.lt_irrefl name (first (name, x) there)
        rw [if_neg hne]
        exact ih rising there
  · intro h
    obtain ⟨before, after, rfl, -⟩ := List.lookup_eq_some_iff.1 h
    exact List.mem_append_right _ (List.mem_cons_self ..)

/-- No entry stands in the list twice. -/
theorem nodup_toList (m : NameMap α) : m.toList.Nodup :=
  m.rising.imp fun {a b} lt => by
    rintro rfl
    exact String.lt_irrefl _ lt

/-- **A map is what stands under its names.** -/
theorem ext_get? {m m' : NameMap α} (h : ∀ name, m.get? name = m'.get? name) : m = m' := by
  have same : ∀ entry, entry ∈ m.toList ↔ entry ∈ m'.toList := fun (name, x) => by
    rw [mem_toList_iff, mem_toList_iff, h]
  have perm := (List.perm_ext_iff_of_nodup m.nodup_toList m'.nodup_toList).2 same
  have lists : m.toList = m'.toList := perm.eq_of_pairwise
    (fun a b _ _ ab ba => absurd ba (String.lt_asymm ab)) m.rising m'.rising
  cases m
  cases m'
  cases lists
  rfl

end NameMap

end TrialProtocol
