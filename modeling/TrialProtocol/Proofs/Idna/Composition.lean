import TrialProtocol.Proofs.Idna.Decomposition
import TrialProtocol.Proofs.Text.Parts

/-!
# Composed texts stay composed

Composing a composed text changes nothing (`composed_composed`). A text is first taken apart and its
marks are put in order, and this *canonical* text is then put together, character by character. What was
put together comes apart into the canonical text again (`canonical_composed`), so composing once more
starts from where composing had started before.

A dot is composed with nothing, so the parts of a composed name are composed themselves
(`split_composed`).
-/

namespace TrialProtocol.Idna

/-! ## 1. Order -/

/-- Puts characters behind others, which are in reverse order. -/
def settle (out : List (Char × Nat)) (s : List Char) : List (Char × Nat) :=
  s.foldl (fun out c => place c (combiningClass c) out) out

theorem settle_append (out : List (Char × Nat)) (s t : List Char) :
    settle out (s ++ t) = settle (settle out s) t :=
  List.foldl_append

theorem settle_cons (out : List (Char × Nat)) (c : Char) (s : List Char) :
    settle out (c :: s) = settle (place c (combiningClass c) out) s :=
  rfl

/-- A later character and the one before it: a mark does not stand behind one of a higher class. -/
def Behind (x y : Char × Nat) : Prop :=
  ¬(0 < x.2 ∧ x.2 < y.2)

theorem place_of_behind {c : Char} {k : Nat} {out : List (Char × Nat)}
    (h : ∀ y ∈ out.head?, Behind (c, k) y) : place c k out = (c, k) :: out := by
  cases out with
  | nil => rfl
  | cons y out => exact if_neg (h y rfl)

theorem place_zero (c : Char) (out : List (Char × Nat)) : place c 0 out = (c, 0) :: out :=
  place_of_behind fun _ _ hlt => absurd hlt.1 (Nat.lt_irrefl 0)

theorem place_of_lt {c : Char} {k : Nat} {y : Char × Nat} (hk : 0 < k) (h : k < y.2)
    (out : List (Char × Nat)) : place c k (y :: out) = y :: place c k out :=
  if_pos ⟨hk, h⟩

theorem mem_place {c : Char} {k : Nat} {out : List (Char × Nat)} {x : Char × Nat} :
    x ∈ place c k out ↔ x = (c, k) ∨ x ∈ out := by
  induction out with
  | nil => exact List.mem_cons
  | cons y out ih =>
    rw [place]
    split
    · rw [List.mem_cons, ih, List.mem_cons]
      tauto
    · exact List.mem_cons

theorem head?_place {c : Char} {k : Nat} {out : List (Char × Nat)} {x : Char × Nat}
    (h : x ∈ (place c k out).head?) : x = (c, k) ∨ x ∈ out.head? := by
  cases out with
  | nil => exact .inl (Option.some.inj h).symm
  | cons y out =>
    rw [place] at h
    split at h
    · exact .inr h
    · exact .inl (Option.some.inj h).symm

/-- What was in order stays in order. -/
theorem isChain_place {out : List (Char × Nat)} (h : out.IsChain Behind) (c : Char) (k : Nat) :
    (place c k out).IsChain Behind := by
  induction out with
  | nil => exact List.IsChain.singleton _
  | cons y out ih =>
    obtain ⟨hy, hout⟩ := List.isChain_cons.mp h
    rw [place]
    split
    · rename_i hlt
      refine List.isChain_cons.mpr ⟨fun x hx => ?_, ih hout⟩
      rcases head?_place hx with rfl | hx
      · exact fun hgt => absurd hgt.2 hlt.2.not_gt
      · exact hy x hx
    · rename_i hge
      exact List.isChain_cons_cons.mpr ⟨hge, h⟩

/-- Marks of different classes may be placed in either order. -/
theorem place_comm {c d : Char} {j k : Nat} (hj : 0 < j) (hk : j < k) (out : List (Char × Nat)) :
    place d j (place c k out) = place c k (place d j out) := by
  have hpos : 0 < k := hj.trans hk
  have hback : ∀ rest, place d j ((c, k) :: rest) = (c, k) :: place d j rest :=
    fun rest => place_of_lt hj hk rest
  induction out with
  | nil =>
    rw [place, hback, place, place_of_behind]
    rintro y ⟨⟩
    exact fun hlt => absurd hlt.2 hk.not_gt
  | cons y out ih =>
    by_cases hy : k < y.2
    · rw [place_of_lt hpos hy, place_of_lt hj (hk.trans hy), ih, place_of_lt hj (hk.trans hy),
        place_of_lt hpos hy]
    · have hfront : place c k (y :: out) = (c, k) :: y :: out := if_neg fun hlt => hy hlt.2
      rw [hfront, hback]
      refine (place_of_behind fun x hx => ?_).symm
      rcases head?_place hx with rfl | hx
      · exact fun hlt => absurd hlt.2 hk.not_gt
      · cases hx
        exact fun hlt => hy hlt.2

/-- A mark of a higher class may be placed behind marks of lower ones at once. -/
theorem settle_cons_comm {c : Char} {marks : List Char} (out : List (Char × Nat))
    (h : ∀ m ∈ marks, 0 < combiningClass m ∧ combiningClass m < combiningClass c) :
    settle out (c :: marks) = settle out (marks ++ [c]) := by
  induction marks generalizing out with
  | nil => rfl
  | cons m marks ih =>
    obtain ⟨hpos, hlt⟩ := h m (List.mem_cons_self ..)
    rw [List.cons_append, settle_cons _ m, ← ih _ fun x hx => h x (List.mem_cons_of_mem _ hx),
      settle_cons, settle_cons, settle_cons, place_comm hpos hlt]

theorem mem_settle {out : List (Char × Nat)} {s : List Char} {x : Char × Nat} :
    x ∈ settle out s ↔ x ∈ out ∨ ∃ c ∈ s, x = (c, combiningClass c) := by
  induction s generalizing out with
  | nil => simp [settle]
  | cons c s ih =>
    rw [settle_cons, ih, mem_place]
    simp only [List.mem_cons, exists_eq_or_imp]
    tauto

theorem isChain_settle {out : List (Char × Nat)} (h : out.IsChain Behind) (s : List Char) :
    (settle out s).IsChain Behind := by
  induction s generalizing out with
  | nil => exact h
  | cons c s ih => exact ih (isChain_place h c _)

/-- Nothing passes a character of class zero. -/
theorem place_append_cons (d : Char) (k : Nat) (c : Char) (front out : List (Char × Nat)) :
    place d k (front ++ (c, 0) :: out) = place d k front ++ (c, 0) :: out := by
  induction front with
  | nil => exact if_neg fun hlt => absurd hlt.2 (Nat.not_lt_zero k)
  | cons y front ih =>
    rw [List.cons_append, place, place]
    split
    · rw [ih]
      rfl
    · rfl

/-- What stands before a character of class zero stays there. -/
theorem settle_append_cons (c : Char) (front out : List (Char × Nat)) (s : List Char) :
    settle (front ++ (c, 0) :: out) s = settle front s ++ (c, 0) :: out := by
  induction s generalizing front with
  | nil => rfl
  | cons d s ih => rw [settle_cons, place_append_cons, ih, settle_cons]

/-! ## 2. Canonical texts -/

/-- The characters that a text is composed of. -/
def apart (s : List Char) : List Char :=
  s.flatMap (decompose 4)

/-- The text that is put together: taken apart, and its marks in order. -/
def canonical (s : List Char) : List (Char × Nat) :=
  ordered (apart s)

theorem canonical_eq (s : List Char) : canonical s = (settle [] (apart s)).reverse := rfl

theorem composed_eq (s : List Char) :
    composed s = ((canonical s).foldl Composing.read {}).text.reverse := rfl

theorem apart_append (s t : List Char) : apart (s ++ t) = apart s ++ apart t :=
  List.flatMap_append

theorem apart_atoms {s : List Char} (h : ∀ c ∈ s, IsAtom c) : apart s = s := by
  induction s with
  | nil => rfl
  | cons c s ih =>
    have htail := ih fun x hx => h x (List.mem_cons_of_mem _ hx)
    rw [apart, List.flatMap_cons, decompose_atom (h c (List.mem_cons_self ..))]
    exact congrArg (c :: ·) htail

/-- A canonical text is made of atoms with their classes. -/
theorem of_mem_canonical {s : List Char} {x : Char × Nat} (h : x ∈ canonical s) :
    IsAtom x.1 ∧ x.2 = combiningClass x.1 := by
  rw [canonical_eq, List.mem_reverse, mem_settle] at h
  rcases h with h | ⟨c, hc, rfl⟩
  · cases h
  · obtain ⟨d, -, hd⟩ := List.mem_flatMap.mp hc
    simp only [and_true]
    exact (of_mem_decompose hd).1

theorem isChain_canonical (s : List Char) : (canonical s).reverse.IsChain Behind := by
  rw [canonical_eq, List.reverse_reverse]
  exact isChain_settle .nil (apart s)

/-! ## 3. Putting together -/

/-- What was put together so far comes apart into what was read, which is given in reverse. -/
structure Composing.Keeps (s : Composing) (read : List (Char × Nat)) : Prop where
  apart : settle [] (apart s.text.reverse) = read
  marks : ∀ m ∈ s.marks, IsAtom m ∧ 0 < combiningClass m ∧ combiningClass m ≤ s.lastClass
  /-- Marks that stand apart are no later than the last character that was read. -/
  last : s.marks = [] ∨ ∃ x ∈ read.head?, s.lastClass ≤ x.2

/-- A character that joins nothing stands behind the text. -/
theorem Composing.Keeps.settle_cons {s : Composing} {read : List (Char × Nat)} (h : s.Keeps read)
    {c : Char} (atom : IsAtom c) (chain : ((c, combiningClass c) :: read).IsChain Behind) :
    settle [] (Idna.apart (c :: s.text).reverse) = (c, combiningClass c) :: read := by
  have hplace := place_of_behind (List.isChain_cons.mp chain).1
  rw [List.reverse_cons, apart_append, settle_append, h.apart,
    apart_atoms (List.forall_mem_singleton.mpr atom)]
  exact hplace

/-- The character joins the starter. Taken apart, it stands before the marks, which have lower classes,
    and it may as well stand behind them. -/
theorem Composing.Keeps.join {s : Composing} {read : List (Char × Nat)} (h : s.Keeps read)
    {a c whole : Char} (atom : IsAtom c) (chain : ((c, combiningClass c) :: read).IsChain Behind)
    (hstarter : s.starter = some a) (hwhole : compose? a c = some whole)
    (hfree : s.marks = [] ∨ s.lastClass < combiningClass c) :
    Composing.Keeps { s with starter := some whole } ((c, combiningClass c) :: read) := by
  have hatoms : ∀ m ∈ s.marks.reverse, IsAtom m := fun m hm =>
    (h.marks m (List.mem_reverse.mp hm)).1
  have hlower : ∀ m ∈ s.marks.reverse,
      0 < combiningClass m ∧ combiningClass m < combiningClass c := by
    intro m hm
    obtain ⟨-, hpos, hle⟩ := h.marks m (List.mem_reverse.mp hm)
    rcases hfree with hnil | hlt
    · rw [hnil] at hm
      cases hm
    · exact ⟨hpos, hle.trans_lt hlt⟩
  have hbefore : (c :: s.text).reverse = s.done.reverse ++ [a] ++ s.marks.reverse ++ [c] := by
    simp [Composing.text, hstarter]
  have hafter : ({ s with starter := some whole } : Composing).text.reverse =
      s.done.reverse ++ [whole] ++ s.marks.reverse := by
    simp [Composing.text]
  have hpair : Idna.apart [whole] = Idna.apart [a] ++ [c] := by
    simpa [Idna.apart] using decompose_of_compose hwhole
  have hbehind := h.settle_cons atom chain
  refine { apart := ?apart, marks := h.marks, last := hfree.imp_right fun hlt => ?last }
  case apart =>
    rw [hbefore, apart_append, apart_append, apart_append, apart_atoms hatoms,
      apart_atoms (List.forall_mem_singleton.mpr atom), List.append_assoc, settle_append] at hbehind
    rw [hafter, apart_append, apart_append, apart_atoms hatoms, hpair, ← List.append_assoc,
      List.append_assoc _ [c], settle_append, List.singleton_append, settle_cons_comm _ hlower,
      hbehind]
  case last => exact ⟨_, rfl, Nat.le_of_lt hlt⟩

/-- The character is a mark that stands apart. -/
theorem Composing.Keeps.mark {s : Composing} {read : List (Char × Nat)} (h : s.Keeps read) {c : Char}
    (atom : IsAtom c) (chain : ((c, combiningClass c) :: read).IsChain Behind)
    (hpos : 0 < combiningClass c) :
    Composing.Keeps { s with marks := c :: s.marks, lastClass := combiningClass c }
      ((c, combiningClass c) :: read) := by
  refine { apart := h.settle_cons atom chain, marks := fun m hm => ?marks
           last := .inr ⟨_, rfl, Nat.le_refl _⟩ }
  rcases List.mem_cons.mp hm with rfl | hm
  · exact ⟨atom, hpos, Nat.le_refl _⟩
  · obtain ⟨hatom, hmark, hle⟩ := h.marks m hm
    refine ⟨hatom, hmark, ?_⟩
    rcases h.last with hnil | ⟨x, hx, hlast⟩
    · rw [hnil] at hm
      cases hm
    · have hbehind := (List.isChain_cons.mp chain).1 x hx
      unfold Behind at hbehind
      simp only at hbehind ⊢
      omega

/-- **One more character keeps it so.** -/
theorem Composing.Keeps.read {s : Composing} {read : List (Char × Nat)} (h : s.Keeps read) {c : Char}
    (atom : IsAtom c) (chain : ((c, combiningClass c) :: read).IsChain Behind) :
    (s.read (c, combiningClass c)).Keeps ((c, combiningClass c) :: read) := by
  unfold Composing.read
  simp only
  split
  case h_1 whole hjoined =>
    split at hjoined
    case isFalse => cases hjoined
    case isTrue hfree =>
      obtain ⟨a, hstarter, hwhole⟩ := Option.bind_eq_some_iff.mp hjoined
      exact h.join atom chain hstarter hwhole (hfree.imp_left List.isEmpty_iff.mp)
  case h_2 =>
    split
    case isTrue =>
      -- A character of class zero is the next starter, and no marks stand behind it.
      exact { apart := h.settle_cons atom chain, marks := fun m hm => absurd hm List.not_mem_nil
              last := .inl rfl }
    case isFalse hclass => exact h.mark atom chain (Nat.pos_of_ne_zero hclass)

/-- **A whole text, character by character.** -/
theorem Composing.Keeps.foldl {s : Composing} {read rest : List (Char × Nat)} (h : s.Keeps read)
    (atoms : ∀ x ∈ rest, IsAtom x.1 ∧ x.2 = combiningClass x.1)
    (chain : (rest.reverse ++ read).IsChain Behind) :
    (rest.foldl Composing.read s).Keeps (rest.reverse ++ read) := by
  induction rest generalizing s read with
  | nil => exact h
  | cons x rest ih =>
    obtain ⟨hatom, hclass⟩ := atoms x (List.mem_cons_self ..)
    rw [List.reverse_cons, List.append_assoc, List.singleton_append] at chain ⊢
    have hx : x = (x.1, combiningClass x.1) := by rw [← hclass]
    have hchain := chain.right_of_append
    rw [hx] at hchain
    have hnext := h.read hatom hchain
    rw [← hx] at hnext
    exact ih hnext (fun y hy => atoms y (List.mem_cons_of_mem _ hy)) chain

/-- **A composed text comes apart into the canonical one.** -/
theorem canonical_composed (s : List Char) : canonical (composed s) = canonical s := by
  have hstart : ({} : Composing).Keeps [] :=
    { apart := rfl, marks := fun m hm => absurd hm List.not_mem_nil, last := .inl rfl }
  have hall : ((canonical s).foldl Composing.read {}).Keeps ((canonical s).reverse ++ []) :=
    hstart.foldl (fun _ hx => of_mem_canonical hx)
      (by rw [List.append_nil]; exact isChain_canonical s)
  rw [canonical_eq (composed s), composed_eq, hall.apart, List.append_nil, List.reverse_reverse]

/-- **Composing changes nothing twice.** -/
theorem composed_composed (s : List Char) : composed (composed s) = composed s := by
  rw [composed_eq (composed s), canonical_composed, composed_eq]

/-! ## 4. ASCII -/

theorem compose?_eq_none {a b : Char} (hhangul : composeHangul? a b = none)
    (hpairs : ∀ p ∈ pairTable, p.first = a → p.second ≠ b) : compose? a b = none := by
  rw [compose?, hhangul, Option.map_eq_none_iff, List.find?_eq_none]
  intro p hp hparts
  rw [Bool.and_eq_true, beq_iff_eq, beq_iff_eq] at hparts
  exact hpairs p hp hparts.1 hparts.2

section Ascii

variable {c : Char} (hc : c.toNat < 0x80)

include hc

theorem isAtom_ascii : IsAtom c where
  noSyllable := by
    rw [← Bool.not_eq_true, isSyllable_iff]
    omega
  noWhole p hp heq := by
    have hbeyond := (Pair.isPlain_of_mem hp).whole_beyond
    rw [heq] at hbeyond
    omega

theorem combiningClass_ascii : combiningClass c = 0 :=
  if_pos hc

theorem compose?_ascii (a : Char) : compose? a c = none := by
  refine compose?_eq_none ?_ fun p hp _ hsecond => ?_
  · rw [composeHangul?, if_neg (by omega), if_neg (by omega)]
  · have hbeyond := (Pair.isPlain_of_mem hp).second_beyond
    rw [hsecond] at hbeyond
    omega

/-- A character of ASCII joins nothing. -/
theorem Composing.read_ascii (s : Composing) :
    s.read (c, 0) = { done := s.text, starter := some c } := by
  have hjoined : ∀ a : Option Char, a.bind (compose? · c) = none := fun a => by
    cases a with
    | none => rfl
    | some a => exact compose?_ascii hc a
  simp only [Composing.read, hjoined, ite_self, if_true]

end Ascii

theorem settle_ascii {s : List Char} (h : ∀ c ∈ s, c.toNat < 0x80) (out : List (Char × Nat)) :
    settle out s = (s.map (·, 0)).reverse ++ out := by
  induction s generalizing out with
  | nil => rfl
  | cons c s ih =>
    rw [settle_cons, combiningClass_ascii (h c (List.mem_cons_self ..)), place_zero,
      ih fun x hx => h x (List.mem_cons_of_mem _ hx)]
    simp

theorem text_foldl_ascii {s : List Char} (h : ∀ c ∈ s, c.toNat < 0x80) (start : Composing) :
    ((s.map (·, 0)).foldl Composing.read start).text = s.reverse ++ start.text := by
  induction s generalizing start with
  | nil => rfl
  | cons c s ih =>
    rw [List.map_cons, List.foldl_cons, Composing.read_ascii (h c (List.mem_cons_self ..)),
      ih fun x hx => h x (List.mem_cons_of_mem _ hx), List.reverse_cons, List.append_assoc]
    rfl

/-- **ASCII is composed as it is.** -/
theorem composed_ascii {s : List Char} (h : ∀ c ∈ s, c.toNat < 0x80) : composed s = s := by
  have hcanonical : canonical s = s.map (·, 0) := by
    rw [canonical_eq, apart_atoms fun c hc => isAtom_ascii (h c hc), settle_ascii h,
      List.append_nil, List.reverse_reverse]
  rw [composed_eq, hcanonical, text_foldl_ascii h]
  exact (congrArg List.reverse (List.append_nil _)).trans (List.reverse_reverse s)

/-! ## 5. Dots -/

theorem compose?_dot (c : Char) : compose? '.' c = none := by
  refine compose?_eq_none ?_ fun p hp hfirst _ => (Pair.isPlain_of_mem hp).first_ne_dot hfirst
  have hdot : '.'.toNat = 46 := rfl
  rw [composeHangul?, if_neg (by omega), if_neg (by unfold syllableBase; omega)]

theorem apart_dot (t : List Char) : apart ('.' :: t) = '.' :: apart t := by
  rw [apart, List.flatMap_cons, decompose_atom (isAtom_ascii (by decide))]
  rfl

/-- What stands on the two sides of a dot is put in order by itself. -/
theorem canonical_append_dot (s t : List Char) :
    canonical (s ++ '.' :: t) = canonical s ++ ('.', 0) :: canonical t := by
  have hclass : combiningClass '.' = 0 := combiningClass_ascii (by decide)
  have hsettle := settle_append_cons '.' [] (settle [] (apart s)) (apart t)
  rw [canonical_eq, apart_append, apart_dot, settle_append, settle_cons, hclass, place_zero]
  rw [List.nil_append] at hsettle
  rw [hsettle, List.reverse_append, List.reverse_cons, List.append_assoc]
  rfl

/-- A state that has read a text and a dot before it read what another one has read. -/
structure Composing.IsBeyond (before : List Char) (s t : Composing) : Prop where
  text : t.text = s.text ++ before
  marks : t.marks = s.marks
  lastClass : t.lastClass = s.lastClass
  /-- A dot as the starter is as good as none. -/
  starter : t.starter = s.starter ∨ s.starter = none ∧ t.starter = some '.'

theorem Composing.IsBeyond.read {before : List Char} {s t : Composing} (h : IsBeyond before s t)
    (x : Char × Nat) : IsBeyond before (s.read x) (t.read x) := by
  have hbind : t.starter.bind (compose? · x.1) = s.starter.bind (compose? · x.1) := by
    rcases h.starter with heq | ⟨hnone, hdot⟩
    · rw [heq]
    · rw [hnone, hdot, Option.bind_some, Option.bind_none, compose?_dot]
  unfold Composing.read
  simp only [h.marks, h.lastClass, hbind]
  split
  · -- Both had the same starter, and it takes in the character.
    rename_i whole hjoined
    have hsome : s.starter ≠ none := by
      intro hnone
      rw [hnone, Option.bind_none, ite_self] at hjoined
      cases hjoined
    have hstarter := h.starter.resolve_right fun hdot => hsome hdot.1
    have hdone : t.done = s.done ++ before := by
      have htext := h.text
      rw [Composing.text, Composing.text, h.marks, hstarter, List.append_assoc _ s.done] at htext
      exact List.append_cancel_left htext
    refine { text := ?_, marks := rfl, lastClass := rfl, starter := .inl rfl }
    simp only [Composing.text, hdone, List.append_assoc]
  · have htext := congrArg (x.1 :: ·) h.text
    split
    · exact { text := htext, marks := rfl, lastClass := rfl, starter := .inl rfl }
    · rw [Composing.text, h.marks] at htext
      exact { text := htext, marks := rfl, lastClass := rfl, starter := h.starter }

theorem Composing.IsBeyond.foldl {before : List Char} {s t : Composing} (h : IsBeyond before s t)
    (rest : List (Char × Nat)) :
    IsBeyond before (rest.foldl Composing.read s) (rest.foldl Composing.read t) := by
  induction rest generalizing s t with
  | nil => exact h
  | cons x rest ih => exact ih (h.read x)

/-- **A dot keeps apart what it separates.** -/
theorem composed_append_dot (s t : List Char) :
    composed (s ++ '.' :: t) = composed s ++ '.' :: composed t := by
  have hdot := Composing.read_ascii (c := '.') (by decide) ((canonical s).foldl Composing.read {})
  have hbeyond : Composing.IsBeyond ('.' :: ((canonical s).foldl Composing.read {}).text) {}
      { done := ((canonical s).foldl Composing.read {}).text, starter := some '.' } :=
    { text := rfl, marks := rfl, lastClass := rfl, starter := .inr ⟨rfl, rfl⟩ }
  rw [composed_eq, canonical_append_dot, List.foldl_append, List.foldl_cons, hdot,
    (hbeyond.foldl (canonical t)).text, List.reverse_append, List.reverse_cons, List.append_assoc]
  rfl

/-- A text without dots is composed without dots. -/
theorem dot_not_mem_composed {s : List Char} (h : '.' ∉ s) : '.' ∉ composed s := by
  intro hmem
  have hsettled : ('.', combiningClass '.') ∈ canonical (composed s) := by
    refine List.mem_reverse.mpr (mem_settle.mpr (.inr ⟨'.', ?_, rfl⟩))
    refine List.mem_flatMap.mpr ⟨'.', hmem, ?_⟩
    rw [decompose_atom (isAtom_ascii (by decide))]
    exact List.mem_singleton_self _
  rw [canonical_composed, canonical_eq, List.mem_reverse, mem_settle] at hsettled
  rcases hsettled with hnil | ⟨d, hd, heq⟩
  · cases hnil
  · obtain ⟨c, hc, hdot⟩ := List.mem_flatMap.mp hd
    have hd' : d = '.' := (congrArg Prod.fst heq).symm
    rw [(of_mem_decompose hdot).2 hd'] at hc
    exact h hc

theorem composed_join {parts : List (List Char)} (ne : parts ≠ []) :
    composed (Text.join ['.'] parts) = Text.join ['.'] (parts.map composed) := by
  induction parts with
  | nil => exact absurd rfl ne
  | cons part parts ih =>
    by_cases hn : parts = []
    · rw [hn]
      rfl
    · have hmap : parts.map composed ≠ [] := by simpa using hn
      rw [List.map_cons, Text.join_cons_of_ne_nil hn, Text.join_cons_of_ne_nil hmap, ← ih hn,
        List.append_assoc, List.append_assoc]
      exact composed_append_dot part _

/-- **The parts of a composed name are the composed parts of the name.** -/
theorem split_composed (s : List Char) :
    Text.split '.' (composed s) = (Text.split '.' s).map composed := by
  have hne : Text.split '.' s ≠ [] := Text.splitBy_ne_nil _ _
  have hfree : ∀ part ∈ (Text.split '.' s).map composed, ∀ c ∈ part, (c == '.') = false := by
    intro part hpart c hc
    obtain ⟨p, hp, rfl⟩ := List.mem_map.mp hpart
    have hundotted := dot_not_mem_composed (Text.not_mem_of_mem_split hp)
    exact beq_false_of_ne fun heq => hundotted (heq ▸ hc)
  conv => lhs; rw [← Text.join_split '.' s, composed_join hne]
  exact Text.split_join (by simpa using hne) hfree

end TrialProtocol.Idna
