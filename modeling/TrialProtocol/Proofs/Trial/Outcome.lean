import TrialProtocol.Proofs.Decimal.Reread
import TrialProtocol.Proofs.Json.Decoded
import TrialProtocol.Proofs.Trial.Document

/-!
# Observed values on their way

An observed value goes through a document as its shortest decimal. What arrives is the value itself if
its digits are few, and in any case a value of the same sign that is at most three doubles away. Only
finite values are ever read, so what was read can be sent on.

* `Observation.Arrives`: an observation, and what arrives of it.
* `exists_areReadAs`: finite values arrive.
* `isFinite_of_readAll`: what was read from a document is finite.
-/

namespace TrialProtocol

open Json (ReadsOnly)

/-! ## 1. What arrives -/

/-- **A double arrives as another one**: it is read as that one, which is close to it, and the same if
    it is written briefly. -/
structure Double.Arrives (x y : Double) : Prop where
  read : x.IsReadAs y
  close : x.IsClose y
  same : x.IsBrief → y = x

theorem Double.IsReadAs.arrives {x y : Double} (h : x.IsReadAs y) : x.Arrives y where
  read := h
  close := by
    obtain ⟨z, read, close⟩ := Double.exists_isReadAs h.finite
    rwa [h.unique read]
  same brief := h.unique (brief.isReadAs h.finite)

namespace Observation

/-- **An observation arrives as another one**, of the same metric, with what arrives of its value and of
    its error. -/
structure Arrives (v w : Observation) : Prop where
  metric : w.metricName = v.metricName
  value : v.value.Arrives w.value
  error : Option.Rel Double.Arrives v.error w.error

/-- All doubles of an observation have a property. -/
structure All (p : Double → Prop) (v : Observation) : Prop where
  value : p v.value
  error : ∀ x ∈ v.error, p x

theorem IsReadAs.arrives {v w : Observation} (h : v.IsReadAs w) : v.Arrives w where
  metric := h.metric
  value := h.value.arrives
  error := by
    have read := h.error
    generalize v.error = x? at read
    generalize w.error = y? at read
    cases read with
    | none => exact .none
    | some read => exact .some read.arrives

/-- Where all doubles are written briefly, nothing changes. -/
theorem Arrives.eq {v w : Observation} (h : v.Arrives w) (brief : v.All Double.IsBrief) : w = v := by
  obtain ⟨name, value, error⟩ := v
  obtain ⟨name', value', error'⟩ := w
  obtain ⟨hname, hvalue, herror⟩ := h
  have hv : value' = value := hvalue.same brief.value
  have he : error' = error := by
    cases herror with
    | none => rfl
    | some arrives => rw [arrives.same (brief.error _ rfl)]
  rw [hv, he]
  exact congrArg (Observation.mk · value error) hname

theorem exists_isReadAs {v : Observation} (finite : v.All (·.isFinite = true)) :
    ∃ w, v.IsReadAs w := by
  obtain ⟨name, value, error⟩ := v
  obtain ⟨value', read, -⟩ := Double.exists_isReadAs finite.value
  cases error with
  | none => exact ⟨⟨name, value', none⟩, rfl, read, .none⟩
  | some x =>
    obtain ⟨y, readError, -⟩ := Double.exists_isReadAs (finite.error x rfl)
    exact ⟨⟨name, value', some y⟩, rfl, read, .some readError⟩

end Observation

/-- A list of things each of which is related to something. -/
theorem exists_forall₂ {α β : Type} {R : α → β → Prop} {l : List α} (h : ∀ a ∈ l, ∃ b, R a b) :
    ∃ l', List.Forall₂ R l l' := by
  induction l with
  | nil => exact ⟨[], .nil⟩
  | cons a l ih =>
    obtain ⟨⟨b, first⟩, rest⟩ := List.forall_mem_cons.mp h
    obtain ⟨l', others⟩ := ih rest
    exact ⟨b :: l', .cons first others⟩

/-- **Finite values arrive**, one by one. -/
theorem exists_areReadAs {values : List Observation}
    (finite : ∀ v ∈ values, v.All (·.isFinite = true)) : ∃ values', AreReadAs values values' :=
  exists_forall₂ fun v hv => Observation.exists_isReadAs (finite v hv)

theorem AreReadAs.arrive {values values' : List Observation} (h : AreReadAs values values') :
    List.Forall₂ Observation.Arrives values values' :=
  h.imp fun _ _ => Observation.IsReadAs.arrives

/-- Where all doubles are written briefly, the same values arrive. -/
theorem eq_of_arrive {values values' : List Observation}
    (h : List.Forall₂ Observation.Arrives values values')
    (brief : ∀ v ∈ values, v.All Double.IsBrief) : values' = values := by
  induction h with
  | nil => rfl
  | cons first _ ih =>
    obtain ⟨hfirst, hrest⟩ := List.forall_mem_cons.mp brief
    rw [first.eq hfirst, ih hrest]

/-! ## 2. What is read -/

/-- Only finite doubles are read. -/
theorem Json.readsOnly_double : ReadsOnly double fun x => x.isFinite = true := by
  intro depth doc x rest read
  obtain ⟨⟨n, rest'⟩, inner, same⟩ := exists_of_bind read
  cases same
  unfold machineNumber at inner
  split at inner
  · split at inner
    · obtain ⟨⟨d, rest''⟩, -, inner⟩ := exists_of_bind inner
      simp only at inner
      split at inner
      · rename_i hn
        cases inner
        exact Decimal.isFinite_machineNumber hn
      · cases inner
    · cases inner
  · cases inner

/-- What the doubles of an observation under construction may be. -/
structure Observation.Draft.All (p : Double → Prop) (s : Draft) : Prop where
  value : ∀ x ∈ s.value, p x
  error : ∀ x? ∈ s.error, ∀ x ∈ x?, p x

theorem Observation.readsOnly : ReadsOnly record.decoder (All (·.isFinite = true)) := by
  refine Json.Record.readsOnly (Draft.All (·.isFinite = true)) ?_ ⟨?_, ?_⟩ ?_
  · intro field mem
    simp only [record, List.mem_cons, List.not_mem_nil, or_false] at mem
    rcases mem with rfl | rfl | rfl
    · exact Json.Member.keeps_of_unread fun _ _ before => ⟨before.value, before.error⟩
    · refine Json.Member.keeps_of Json.readsOnly_double fun s x before finite => ⟨?_, before.error⟩
      rintro _ ⟨⟩
      exact finite
    · refine Json.Member.keeps_of Json.readsOnly_double.optional fun s x? before finite =>
        ⟨before.value, ?_⟩
      rintro _ ⟨⟩
      exact finite
  · exact fun x hx => by cases hx
  · exact fun x? hx => by cases hx
  · rintro ⟨name?, value?, error?⟩ v ⟨value, error⟩ made
    obtain ⟨name, -, made⟩ := Json.exists_of_bind made
    obtain ⟨x, there, made⟩ := Json.exists_of_bind made
    cases made
    cases value? with
    | none => cases there
    | some _ =>
      cases there
      refine ⟨value x rfl, fun y hy => ?_⟩
      cases error? with
      | none => cases hy
      | some error? => exact error error? rfl y hy

/-- All doubles of an outcome have a property. -/
def TrialValues.All (p : Double → Prop) (outcome : TrialValues) : Prop :=
  ∀ v ∈ outcome.values, v.All p

/-- Only outcomes with finite values are read. -/
theorem TrialValues.readsOnly : ReadsOnly record.decoder (All (·.isFinite = true)) := by
  refine Json.Record.readsOnly
    (fun s => ∀ values ∈ s.values, ∀ v ∈ values, v.All (·.isFinite = true)) ?_ ?_ ?_
  · intro field mem
    simp only [record, List.mem_cons, List.not_mem_nil, or_false] at mem
    rcases mem with rfl | rfl
    · refine Json.Member.keeps_of Observation.readsOnly.list fun s values _ finite => ?_
      rintro _ ⟨⟩
      exact finite
    · exact Json.Member.keeps_of_unread fun _ _ before => before
  · exact fun values hv => by cases hv
  · rintro ⟨values?, failed?⟩ outcome before made
    cases made
    cases values? with
    | none => exact fun v hv => by cases hv
    | some values => exact before values rfl

end TrialProtocol
