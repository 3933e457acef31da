import Mathlib.Data.List.TakeWhile
import TrialProtocol.Text.Blank

/-!
# Cutting and trimming texts

What `splitBy`, `splitOnce` and `trimBy` do to a text that was put together from parts: a delimiter
that stands in no part is found again, and a text without blanks at its ends keeps them all.
-/

namespace TrialProtocol.Text

/-- What is decided along a list holds of its members. -/
theorem of_all {α : Type} {p : α → Prop} [DecidablePred p] {s : List α}
    (h : s.all (fun a => decide (p a)) = true) : ∀ a ∈ s, p a :=
  fun a ha => of_decide_eq_true (List.all_eq_true.mp h a ha)

/-! ## 1. Cutting -/

theorem splitBy_of_forall {p : Char → Bool} {s : List Char} (h : ∀ c ∈ s, p c = false) :
    splitBy p s = [s] := by
  induction s with
  | nil => rfl
  | cons c s ih =>
    have hc := h c (List.mem_cons_self ..)
    rw [splitBy, if_neg (by simp [hc]), ih fun x hx => h x (List.mem_cons_of_mem _ hx)]

/-- The first part ends at the first delimiter. -/
theorem splitBy_append_cons {p : Char → Bool} {s : List Char} (h : ∀ c ∈ s, p c = false) {d : Char}
    (hd : p d = true) (rest : List Char) : splitBy p (s ++ d :: rest) = s :: splitBy p rest := by
  induction s with
  | nil => rw [List.nil_append, splitBy, if_pos hd]
  | cons c s ih =>
    have hc := h c (List.mem_cons_self ..)
    rw [List.cons_append, splitBy, if_neg (by simp [hc]),
      ih fun x hx => h x (List.mem_cons_of_mem _ hx)]

/-- **Joined parts are found again** if none of them holds a delimiter. -/
theorem splitBy_join {p : Char → Bool} {d : Char} {parts : List (List Char)} (ne : parts ≠ [])
    (h : ∀ part ∈ parts, ∀ c ∈ part, p c = false) (hd : p d = true) :
    splitBy p (join [d] parts) = parts := by
  induction parts with
  | nil => exact absurd rfl ne
  | cons part parts ih =>
    have hp := h part (List.mem_cons_self ..)
    by_cases hn : parts = []
    · rw [hn]
      exact splitBy_of_forall hp
    · rw [join_cons_of_ne_nil hn, List.append_assoc]
      have hs := splitBy_append_cons hp hd (join [d] parts)
      exact hs.trans (congrArg _ (ih hn fun p hp => h p (List.mem_cons_of_mem _ hp)))

theorem split_join {d : Char} {parts : List (List Char)} (ne : parts ≠ [])
    (h : ∀ part ∈ parts, ∀ c ∈ part, (c == d) = false) : split d (join [d] parts) = parts :=
  splitBy_join ne h (beq_self_eq_true d)

/-- A part is a piece of the text without a delimiter. -/
theorem of_mem_splitBy {p : Char → Bool} {s part : List Char} (h : part ∈ splitBy p s) {c : Char}
    (hc : c ∈ part) : c ∈ s ∧ p c = false := by
  induction s generalizing part with
  | nil =>
    rw [List.mem_singleton.mp h] at hc
    cases hc
  | cons x s ih =>
    rw [splitBy] at h
    split at h
    case isTrue =>
      rcases List.mem_cons.mp h with rfl | h
      · cases hc
      · exact (ih h hc).imp_left (List.mem_cons_of_mem x)
    case isFalse hx =>
      cases hs : splitBy p s with
      | nil => exact absurd hs (splitBy_ne_nil p s)
      | cons first parts =>
        rw [hs] at h
        rcases List.mem_cons.mp h with rfl | h
        · rcases List.mem_cons.mp hc with rfl | hc
          · exact ⟨List.mem_cons_self .., Bool.eq_false_iff.mpr hx⟩
          · exact (ih (hs ▸ List.mem_cons_self ..) hc).imp_left (List.mem_cons_of_mem x)
        · exact (ih (hs ▸ List.mem_cons_of_mem _ h) hc).imp_left (List.mem_cons_of_mem x)

theorem not_mem_of_mem_split {d : Char} {s part : List Char} (h : part ∈ split d s) : d ∉ part :=
  fun hd => Bool.false_ne_true ((of_mem_splitBy h hd).2.symm.trans (beq_self_eq_true d))

/-- A change that leaves the delimiters leaves the cuts. -/
theorem splitBy_map {p : Char → Bool} {f : Char → Char} {s : List Char}
    (h : ∀ c ∈ s, p (f c) = p c) : splitBy p (s.map f) = (splitBy p s).map (List.map f) := by
  induction s with
  | nil => rfl
  | cons c s ih =>
    have hc := h c (List.mem_cons_self ..)
    rw [List.map_cons, splitBy, splitBy, hc, ih fun x hx => h x (List.mem_cons_of_mem _ hx)]
    split
    · rfl
    · cases splitBy p s with
      | nil => rfl
      | cons part parts => rfl

theorem splitOnce_of_forall {p : Char → Bool} {s : List Char} (h : ∀ c ∈ s, p c = false) :
    splitOnce p s = none := by
  induction s with
  | nil => rfl
  | cons c s ih =>
    have hc := h c (List.mem_cons_self ..)
    rw [splitOnce, if_neg (by simp [hc]), ih fun x hx => h x (List.mem_cons_of_mem _ hx)]
    rfl

theorem splitOnce_append_cons {p : Char → Bool} {s : List Char} (h : ∀ c ∈ s, p c = false)
    {d : Char} (hd : p d = true) (rest : List Char) :
    splitOnce p (s ++ d :: rest) = some (s, rest) := by
  induction s with
  | nil => rw [List.nil_append, splitOnce, if_pos hd]
  | cons c s ih =>
    have hc := h c (List.mem_cons_self ..)
    rw [List.cons_append, splitOnce, if_neg (by simp [hc]),
      ih fun x hx => h x (List.mem_cons_of_mem _ hx)]
    rfl

theorem mem_of_splitOnce {p : Char → Bool} {s front back : List Char}
    (h : splitOnce p s = some (front, back)) {c : Char} (hc : c ∈ back) : c ∈ s := by
  induction s generalizing front with
  | nil => cases h
  | cons x s ih =>
    rw [splitOnce] at h
    split at h
    · cases h
      exact List.mem_cons_of_mem x hc
    · obtain ⟨⟨_, _⟩, hs, heq⟩ := Option.map_eq_some_iff.mp h
      cases heq
      exact List.mem_cons_of_mem x (ih hs)

/-- What stands in a joined text stands in a part or between two of them. -/
theorem mem_of_mem_join {d : List Char} {parts : List (List Char)} {c : Char}
    (h : c ∈ join d parts) : c ∈ d ∨ ∃ part ∈ parts, c ∈ part := by
  induction parts with
  | nil => cases h
  | cons part parts ih =>
    cases parts with
    | nil => exact .inr ⟨part, List.mem_cons_self .., h⟩
    | cons next parts =>
      rw [join_cons_of_ne_nil (by simp)] at h
      rcases List.mem_append.mp h with h | h
      · rcases List.mem_append.mp h with h | h
        · exact .inr ⟨part, List.mem_cons_self .., h⟩
        · exact .inl h
      · rcases ih h with h | ⟨p, hp, hc⟩
        · exact .inl h
        · exact .inr ⟨p, List.mem_cons_of_mem _ hp, hc⟩

/-- What stands in a part stands in the joined text. -/
theorem mem_join {d : List Char} {parts : List (List Char)} {part : List Char} (h : part ∈ parts)
    {c : Char} (hc : c ∈ part) : c ∈ join d parts := by
  induction parts with
  | nil => cases h
  | cons first parts ih =>
    by_cases hn : parts = []
    · rw [hn, List.mem_singleton] at h
      rw [hn, ← h]
      exact hc
    · rw [join_cons_of_ne_nil hn]
      rcases List.mem_cons.mp h with rfl | h
      · exact List.mem_append_left _ (List.mem_append_left _ hc)
      · exact List.mem_append_right _ (ih h)

/-! ## 2. Trimming -/

/-- A text that matches at neither end. -/
def IsTrimmedBy (p : Char → Bool) (s : List Char) : Prop :=
  (∀ c, s.head? = some c → p c = false) ∧ ∀ c, s.getLast? = some c → p c = false

instance (p : Char → Bool) (s : List Char) : Decidable (IsTrimmedBy p s) :=
  decidable_of_iff ((s.head?.all fun c => !p c) = true ∧ (s.getLast?.all fun c => !p c) = true) <| by
    simp only [IsTrimmedBy, Option.all_eq_true, Bool.not_eq_true']

theorem dropWhile_of_head? {p : Char → Bool} {s : List Char}
    (h : ∀ c, s.head? = some c → p c = false) : s.dropWhile p = s := by
  cases s with
  | nil => rfl
  | cons c s =>
    have hc := h c rfl
    rw [List.dropWhile_cons, if_neg (by simp [hc])]

theorem dropEndWhile_of_getLast? {p : Char → Bool} {s : List Char}
    (h : ∀ c, s.getLast? = some c → p c = false) : dropEndWhile p s = s := by
  have hr : s.reverse.dropWhile p = s.reverse :=
    dropWhile_of_head? fun c hc => h c (by rwa [List.head?_reverse] at hc)
  rw [dropEndWhile, hr, List.reverse_reverse]

theorem IsTrimmedBy.trimBy_eq {p : Char → Bool} {s : List Char} (h : IsTrimmedBy p s) :
    trimBy p s = s := by
  rw [trimBy, dropWhile_of_head? h.1, dropEndWhile_of_getLast? h.2]

theorem mem_of_mem_trimBy {p : Char → Bool} {s : List Char} {c : Char} (h : c ∈ trimBy p s) :
    c ∈ s := by
  rw [trimBy, dropEndWhile, List.mem_reverse] at h
  exact (List.dropWhile_sublist p).mem
    (List.mem_reverse.mp ((List.dropWhile_sublist p).mem h))

/-- Matching characters in front of a text are dropped. -/
theorem trimBy_cons {p : Char → Bool} {c : Char} (h : p c = true) (s : List Char) :
    trimBy p (c :: s) = trimBy p s := by
  rw [trimBy, trimBy, List.dropWhile_cons, if_pos h]

/-- What is dropped in front of a text and behind it matches. -/
theorem exists_eq_append_trimBy (p : Char → Bool) (s : List Char) :
    ∃ before after, s = before ++ trimBy p s ++ after ∧ ∀ c ∈ before ++ after, p c = true := by
  have hfront := List.takeWhile_append_dropWhile (p := p) (l := s)
  have hback := congrArg List.reverse
    (List.takeWhile_append_dropWhile (p := p) (l := (s.dropWhile p).reverse))
  rw [List.reverse_append, List.reverse_reverse] at hback
  refine ⟨s.takeWhile p, ((s.dropWhile p).reverse.takeWhile p).reverse, ?_, fun c hc => ?_⟩
  · rw [List.append_assoc, trimBy, dropEndWhile, hback, hfront]
  · rcases List.mem_append.mp hc with hc | hc
    · exact List.mem_takeWhile_imp hc
    · exact List.mem_takeWhile_imp (List.mem_reverse.mp hc)

/-- **A text is what is left of it between matching characters.** -/
theorem IsTrimmedBy.trimBy_append {p : Char → Bool} {s before after : List Char}
    (h : IsTrimmedBy p s) (hbefore : ∀ c ∈ before, p c = true) (hafter : ∀ c ∈ after, p c = true) :
    trimBy p (before ++ s ++ after) = s := by
  have hback : (s ++ after).dropWhile p = s ++ after ∨ s = [] ∧ (s ++ after).dropWhile p = [] := by
    cases s with
    | nil => exact .inr ⟨rfl, List.dropWhile_eq_nil_iff.mpr hafter⟩
    | cons x s => exact .inl (dropWhile_of_head? fun c hc => h.1 c hc)
  rw [trimBy, List.append_assoc, List.dropWhile_append_of_pos hbefore]
  rcases hback with hback | ⟨rfl, hback⟩
  · rw [hback, dropEndWhile, List.reverse_append,
      List.dropWhile_append_of_pos fun c hc => hafter c (List.mem_reverse.mp hc)]
    exact dropEndWhile_of_getLast? h.2
  · rw [hback]
    rfl

theorem IsTrimmedBy.trimBy_between {p : Char → Bool} {s : List Char} (h : IsTrimmedBy p s)
    {c d : Char} (hc : p c = true) (hd : p d = true) : trimBy p (c :: s ++ [d]) = s :=
  h.trimBy_append (List.forall_mem_singleton.mpr hc) (List.forall_mem_singleton.mpr hd)

/-- A text between two others that do not match at the outside. -/
theorem isTrimmedBy_cons_append {p : Char → Bool} {c d : Char} (hc : p c = false)
    (hd : p d = false) (s : List Char) : IsTrimmedBy p (c :: s ++ [d]) := by
  refine ⟨fun x hx => ?_, fun x hx => ?_⟩
  · cases hx
    exact hc
  · rw [List.getLast?_append, List.getLast?_singleton, Option.some_or] at hx
    cases hx
    exact hd

theorem isTrimmedBy_of_forall {p : Char → Bool} {s : List Char} (h : ∀ c ∈ s, p c = false) :
    IsTrimmedBy p s :=
  ⟨fun c hc => h c (List.mem_of_head? hc), fun c hc => h c (List.mem_of_getLast? hc)⟩

end TrialProtocol.Text
