import TrialProtocol.Json.Record

/-!
# What decoders can read

A property of everything that a decoder can read, from whatever document. It goes up from the parts of
a value to the value: through lists, through values that may be missing, and through records, where an
invariant of the record under construction stands between the members and the record.

* `ReadsOnly.list`, `ReadsOnly.optional`: containers.
* `Record.readsOnly`: records, by an invariant that every member keeps.
-/

namespace TrialProtocol.Json

/-- **Whatever is read has a property.** -/
def ReadsOnly {α : Type} (read : Decoder α) (p : α → Prop) : Prop :=
  ∀ ⦃depth doc x rest⦄, read depth doc = .ok (x, rest) → p x

/-- A chain of steps that succeeds has succeeded step by step. -/
theorem exists_of_bind {ε α β : Type} {x : Except ε α} {f : α → Except ε β} {b : β}
    (h : x >>= f = .ok b) : ∃ a, x = .ok a ∧ f a = .ok b := by
  cases x with
  | error e => cases h
  | ok a => exact ⟨a, rfl, h⟩

/-- So has a step whose result is changed. -/
theorem exists_of_map {ε α β : Type} {x : Except ε α} {f : α → β} {b : β}
    (h : x.map f = .ok b) : ∃ a, x = .ok a ∧ f a = b := by
  cases x with
  | error e => cases h
  | ok a => exact ⟨a, rfl, Except.ok.inj h⟩

/-- Nor can a whole document be read as anything else. -/
theorem ReadsOnly.readAll {α : Type} {read : Decoder α} {p : α → Prop} (h : ReadsOnly read p)
    {doc : Document} {x : α} (whole : readAll read doc = .ok x) : p x := by
  obtain ⟨⟨y, rest⟩, first, whole⟩ := exists_of_bind whole
  obtain ⟨_, -, same⟩ := exists_of_bind whole
  cases same
  exact h first

/-! ## 1. Containers -/

section Containers

variable {α : Type} {item : Decoder α} {p : α → Prop} (h : ReadsOnly item p)

include h

theorem ReadsOnly.elements {depth budget : Nat} {first : Bool} {doc : Document} {xs : List α}
    {rest : Document} (read : Json.elements (item depth) budget first doc = .ok (xs, rest)) :
    ∀ x ∈ xs, p x := by
  induction budget generalizing first doc xs rest with
  | zero => cases read
  | succ budget ih =>
    obtain ⟨⟨more, doc'⟩, -, read⟩ := exists_of_bind read
    cases more with
    | false =>
      cases read
      exact fun x hx => by cases hx
    | true =>
      obtain ⟨⟨x, doc''⟩, one, read⟩ := exists_of_bind read
      obtain ⟨⟨ys, rest'⟩, others, read⟩ := exists_of_bind read
      cases read
      exact List.forall_mem_cons.mpr ⟨h one, ih others⟩

/-- The elements of a list are what an element can be. -/
theorem ReadsOnly.list : ReadsOnly (list item) fun xs => ∀ x ∈ xs, p x := by
  intro depth doc xs rest read
  unfold Json.list at read
  split at read
  · obtain ⟨depth', -, read⟩ := exists_of_bind read
    obtain ⟨⟨ys, rest'⟩, inner, read⟩ := exists_of_bind read
    obtain ⟨closed, -, read⟩ := exists_of_bind read
    cases read
    exact h.elements inner
  · cases read

/-- So is a value that may be missing, if it is there. -/
theorem ReadsOnly.optional : ReadsOnly (optional item) fun x? => ∀ x ∈ x?, p x := by
  intro depth doc x? rest read
  unfold Json.optional at read
  split at read
  · obtain ⟨_, -, same⟩ := exists_of_map read
    cases same
    exact fun x hx => by cases hx
  · obtain ⟨⟨x, rest'⟩, inner, same⟩ := exists_of_map read
    cases same
    rintro y ⟨⟩
    exact h inner

end Containers

/-! ## 2. Records -/

variable {σ α β : Type}

/-- **A member keeps an invariant** of the record under construction. -/
def Member.Keeps (field : Member σ) (invariant : σ → Prop) : Prop :=
  ∀ ⦃depth s doc s' rest⦄, invariant s → field.read depth s doc = .ok (s', rest) → invariant s'

theorem Member.keeps_of {name : String} {get : σ → Option β} {set : σ → β → σ} {item : Decoder β}
    {p : β → Prop} {invariant : σ → Prop} (h : ReadsOnly item p)
    (kept : ∀ s x, invariant s → p x → invariant (set s x)) :
    (Member.of name get set item).Keeps invariant := by
  intro depth s doc s' rest before read
  obtain ⟨⟨x, rest'⟩, inner, same⟩ := exists_of_map read
  cases same
  exact kept s x before (h inner)

/-- So does a member that the invariant says nothing about. -/
theorem Member.keeps_of_unread {name : String} {get : σ → Option β} {set : σ → β → σ}
    {item : Decoder β} {invariant : σ → Prop}
    (kept : ∀ s x, invariant s → invariant (set s x)) :
    (Member.of name get set item).Keeps invariant :=
  keeps_of (p := fun _ => True) (fun _ _ _ _ _ => trivial) fun s x before _ => kept s x before

namespace Record

variable {r : Record σ α} {invariant : σ → Prop}

theorem keeps_readMembers (keeps : ∀ field ∈ r.fields, field.Keeps invariant) {depth budget : Nat}
    {first : Bool} {s s' : σ} {doc rest : Document} (before : invariant s)
    (read : r.readMembers depth budget first s doc = .ok (s', rest)) : invariant s' := by
  induction budget generalizing first s doc with
  | zero => cases read
  | succ budget ih =>
    obtain ⟨⟨more, doc'⟩, -, read⟩ := exists_of_bind read
    cases more with
    | false =>
      cases read
      exact before
    | true =>
      obtain ⟨⟨key, doc''⟩, -, read⟩ := exists_of_bind read
      simp only at read
      split at read
      · rename_i field known
        split at read
        · cases read
        · obtain ⟨value, -, read⟩ := exists_of_bind read
          obtain ⟨⟨t, doc'''⟩, one, read⟩ := exists_of_bind read
          exact ih (keeps field (List.mem_of_find?_eq_some known) before one) read
      · -- an unknown member is skipped
        obtain ⟨value, -, read⟩ := exists_of_bind read
        obtain ⟨after, -, read⟩ := exists_of_bind read
        exact ih before read

theorem keeps_readElements {fields : List (Member σ)}
    (keeps : ∀ field ∈ fields, field.Keeps invariant) {depth : Nat} {first : Bool} {s s' : σ}
    {doc rest : Document} (before : invariant s)
    (read : readElements depth fields first s doc = .ok (s', rest)) : invariant s' := by
  induction fields generalizing first s doc with
  | nil =>
    cases read
    exact before
  | cons field fields ih =>
    obtain ⟨⟨more, doc'⟩, -, read⟩ := exists_of_bind read
    cases more with
    | false =>
      cases read
      exact before
    | true =>
      obtain ⟨⟨t, doc''⟩, one, read⟩ := exists_of_bind read
      have after := keeps field (List.mem_cons_self ..) before one
      exact ih (fun f hf => keeps f (List.mem_cons_of_mem _ hf)) after read

/-- **A record is what its members can make of it.** -/
theorem readsOnly {p : α → Prop} (invariant : σ → Prop)
    (keeps : ∀ field ∈ r.fields, field.Keeps invariant) (empty : invariant r.empty)
    (complete : ∀ s x, invariant s → r.complete s = .ok x → p x) :
    ReadsOnly r.decoder p := by
  have completed : ∀ {s x}, invariant s → (r.ofMembers s = .ok x ∨ r.ofElements s = .ok x) → p x := by
    intro s x after h
    refine complete s x after ?_
    unfold ofMembers ofElements at h
    cases hc : r.complete s with
    | ok y =>
      rw [hc] at h
      rcases h with h | h <;> cases h <;> rfl
    | error name =>
      rw [hc] at h
      rcases h with h | h <;> cases h
  intro depth doc x rest read
  unfold decoder at read
  split at read
  · obtain ⟨depth', -, read⟩ := exists_of_bind read
    obtain ⟨⟨s, rest'⟩, inner, read⟩ := exists_of_bind read
    obtain ⟨y, made, read⟩ := exists_of_bind read
    obtain ⟨closed, -, read⟩ := exists_of_bind read
    cases read
    exact completed (keeps_readElements keeps empty inner) (.inr made)
  · obtain ⟨depth', -, read⟩ := exists_of_bind read
    obtain ⟨⟨s, rest'⟩, inner, read⟩ := exists_of_bind read
    obtain ⟨y, made, read⟩ := exists_of_bind read
    obtain ⟨closed, -, read⟩ := exists_of_bind read
    cases read
    exact completed (keeps_readMembers keeps empty inner) (.inl made)
  · cases read

/-- What holds of a completed record, whichever members it has, holds of what is read. -/
theorem readsOnly_of_complete {p : α → Prop} (complete : ∀ s x, r.complete s = .ok x → p x) :
    ReadsOnly r.decoder p :=
  readsOnly (fun _ => True) (fun _ _ _ _ _ _ _ _ _ => trivial) trivial
    fun s x _ made => complete s x made

end Record

end TrialProtocol.Json
