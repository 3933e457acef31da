import Mathlib.Tactic.MkIffOfInductiveProp
import TrialProtocol.Idna
import TrialProtocol.Proofs.Idna.Composition
import TrialProtocol.Proofs.Idna.Punycode
import TrialProtocol.Proofs.Text.Ascii

/-!
# Domain names in their ASCII form

A name in its ASCII form stands for itself (`toAscii?_of_toAscii?_eq_some`), and it holds none of the
characters that separate the parts of an address (`isForbidden_of_toAscii`).

For a plain name the form checks that itself. Any other name is put together from labels in their own
script (`IsLabel`), each of which is read back from what is written for it (`ownScript?_asciiLabel`).
What is written is in small letters of ASCII, which are neither mapped nor composed.
-/

namespace TrialProtocol.Idna

/-! ## 1. Characters -/

/-- A character of a label that is written in ASCII. -/
@[mk_iff]
structure IsWritten (c : Char) : Prop where
  ascii : c.toNat < 0x80
  small : c.toLower = c
  allowed : isForbidden c = false

instance (c : Char) : Decidable (IsWritten c) :=
  decidable_of_iff' _ (isWritten_iff c)

theorem isAscii_iff {c : Char} : isAscii c = true ↔ c.toNat < 0x80 :=
  decide_eq_true_iff

/-- A small character of ASCII stands for itself. -/
theorem mapChar?_of_isWritten {c : Char} (h : IsWritten c) : mapChar? c = some [c] := by
  rw [mapChar?, if_pos h.ascii, h.small]

theorem toLower_eq_dot {c : Char} (h : c.toLower = '.') : c = '.' := by
  cases hc : c.isUpper with
  | true =>
    have lower := Text.of_ascii (p := fun c => c.isUpper = true → c.toLower ≠ '.') (by decide)
      (Text.toNat_lt_of_isUpper hc)
    exact absurd h (lower hc)
  | false => rwa [Text.toLower_of_isUpper_eq_false hc] at h

theorem toLower_toLower (c : Char) : c.toLower.toLower = c.toLower := by
  cases hc : c.isUpper with
  | true =>
    exact Text.of_ascii (p := fun c => c.toLower.toLower = c.toLower) (by decide)
      (Text.toNat_lt_of_isUpper hc)
  | false => rw [Text.toLower_of_isUpper_eq_false hc, Text.toLower_of_isUpper_eq_false hc]

theorem map_toLower {s : List Char} (h : ∀ c ∈ s, IsWritten c) : s.map Char.toLower = s :=
  (List.map_congr_left fun c hc => (h c hc).small).trans (List.map_id _)

/-! ## 2. Labels -/

/-- A label in its own script, as it comes out of a name. -/
structure IsLabel (label : List Char) : Prop where
  proper : isProperLabel label = true
  unmarked : marked? label = none
  stable : composed label = label
  undotted : '.' ∉ label

section Label

variable {label : List Char} (h : IsLabel label)

include h

theorem IsLabel.facts {c : Char} (hc : c ∈ label) : isValid c = true ∧ isForbidden c = false := by
  have hp := h.proper
  simp only [isProperLabel, Bool.and_eq_true, List.all_eq_true, Bool.not_eq_true'] at hp
  exact hp.1.1 c hc

/-- Among the characters of ASCII the capital letters are not valid. -/
theorem IsLabel.isWritten {c : Char} (hc : c ∈ label) (ascii : c.toNat < 0x80) : IsWritten c := by
  obtain ⟨hvalid, hallowed⟩ := h.facts hc
  rw [isValid, if_pos ascii, Bool.not_eq_true'] at hvalid
  exact ⟨ascii, Text.toLower_of_isUpper_eq_false hvalid, hallowed⟩

theorem IsLabel.isWritten_encode {c : Char} (hc : c ∈ Punycode.encode label) :
    IsWritten c ∧ c ≠ '.' := by
  rcases Punycode.of_mem_encode hc with ⟨hmem, hlt⟩ | rfl | ⟨d, hd, rfl⟩
  · exact ⟨h.isWritten hmem hlt, fun heq => h.undotted (heq ▸ hmem)⟩
  · decide
  · have all : ∀ k : Fin 36,
        IsWritten (Punycode.digitChar k.val) ∧ Punycode.digitChar k.val ≠ '.' := by decide
    exact all ⟨d, hd⟩

theorem IsLabel.isWritten_asciiLabel {c : Char} (hc : c ∈ asciiLabel label) :
    IsWritten c ∧ c ≠ '.' := by
  unfold asciiLabel at hc
  split at hc
  · rename_i hall
    have hlt := isAscii_iff.mp (List.all_eq_true.mp hall c hc)
    exact ⟨h.isWritten hc hlt, fun heq => h.undotted (heq ▸ hc)⟩
  · rcases List.mem_append.mp hc with hc | hc
    · exact Text.of_all (p := fun c => IsWritten c ∧ c ≠ '.') (by decide) c hc
    · exact h.isWritten_encode hc

/-- A label beyond ASCII is written behind the mark. -/
theorem IsLabel.marked?_append : marked? (mark ++ Punycode.encode label) =
    some (Punycode.encode label) := by
  have hmark : mark.map Char.toLower = mark := by decide
  rw [marked?, List.map_append, hmark, map_toLower fun c hc => (h.isWritten_encode hc).1,
    Text.stripStart_append]

theorem IsLabel.unmarked?_encode (beyond : label.all isAscii = false) :
    unmarked? (Punycode.encode label) = some label := by
  have hascii : (Punycode.encode label).all isAscii = true :=
    List.all_eq_true.mpr fun c hc => isAscii_iff.mpr (h.isWritten_encode hc).1.ascii
  have hchecks : (label.all isAscii || label != composed label || (marked? label).isSome) = false := by
    rw [beyond, h.stable, h.unmarked, bne_self_eq_false]
    rfl
  simp only [unmarked?, hascii, Bool.not_true, Bool.false_eq_true, if_false, Punycode.decode?_encode,
    Option.bind_eq_bind, Option.bind_some, hchecks]
  rfl

/-- **A written label is read back** in its own script. -/
theorem IsLabel.ownScript?_asciiLabel : ownScript? (asciiLabel label) = some label := by
  unfold asciiLabel
  split
  · simp [ownScript?, h.unmarked, h.proper]
  · rename_i hall
    have hbeyond := Bool.eq_false_iff.mpr hall
    simp [ownScript?, h.marked?_append, h.unmarked?_encode hbeyond, h.proper]

end Label

/-- A label that bears the mark holds no other dots than what is behind it. -/
theorem dot_not_mem_of_marked {label s : List Char} (h : marked? label = some s)
    (undotted : '.' ∉ label) : '.' ∉ s := by
  intro hdot
  have hmem : '.' ∈ label.map Char.toLower := by
    rw [Text.eq_append_of_stripStart h]
    exact List.mem_append_right _ hdot
  obtain ⟨c, hc, heq⟩ := List.mem_map.mp hmem
  exact undotted (toLower_eq_dot heq ▸ hc)

theorem isLabel_of_unmarked {s label : List Char} (h : unmarked? s = some label) (undotted : '.' ∉ s)
    (proper : isProperLabel label = true) : IsLabel label := by
  unfold unmarked? at h
  split at h
  case isTrue => cases h
  obtain ⟨decoded, hdecoded, h⟩ := Option.bind_eq_some_iff.mp h
  split at h
  case isTrue => cases h
  rename_i hchecks
  obtain rfl := Option.some.inj h
  simp only [Bool.or_eq_true, not_or, bne_iff_ne, ne_eq, not_not, Option.isSome_iff_ne_none] at hchecks
  refine ⟨proper, hchecks.2, hchecks.1.2.symm, fun hdot => undotted ?_⟩
  exact Punycode.mem_of_decode? hdecoded hdot (by decide)

/-- **What is made of a label is a label.** -/
theorem isLabel_of_ownScript {part label : List Char} (h : ownScript? part = some label)
    (hcomposed : composed part = part) (undotted : '.' ∉ part) : IsLabel label := by
  have proper : ∀ l, (if isProperLabel l then some l else none) = some label →
      l = label ∧ isProperLabel label = true := by
    intro l hl
    split at hl
    case isFalse => cases hl
    rename_i hp
    obtain rfl := Option.some.inj hl
    exact ⟨rfl, hp⟩
  unfold ownScript? at h
  cases hmarked : marked? part with
  | none =>
    simp only [hmarked] at h
    obtain ⟨rfl, hp⟩ := proper _ h
    exact ⟨hp, hmarked, hcomposed, undotted⟩
  | some s =>
    simp only [hmarked] at h
    obtain ⟨l, hl, h⟩ := Option.bind_eq_some_iff.mp h
    obtain ⟨rfl, hp⟩ := proper _ h
    exact isLabel_of_unmarked hl (dot_not_mem_of_marked hmarked undotted) hp

/-! ## 3. Names -/

/-- What a list of results holds came from a member. -/
theorem exists_of_mapM_eq_some {α β : Type} {f : α → Option β} {xs : List α} {ys : List β}
    (h : xs.mapM f = some ys) : ∀ y ∈ ys, ∃ x ∈ xs, f x = some y := by
  induction xs generalizing ys with
  | nil =>
    cases h
    intro y hy
    cases hy
  | cons x xs ih =>
    rw [List.mapM_cons] at h
    obtain ⟨y, hy, h⟩ := Option.bind_eq_some_iff.mp h
    obtain ⟨zs, hz, h⟩ := Option.bind_eq_some_iff.mp h
    cases h
    intro z hm
    rcases List.mem_cons.mp hm with rfl | hm
    · exact ⟨x, List.mem_cons_self .., hy⟩
    · obtain ⟨w, hw, hf⟩ := ih hz z hm
      exact ⟨w, List.mem_cons_of_mem _ hw, hf⟩

theorem ne_nil_of_mapM_eq_some {α β : Type} {f : α → Option β} {xs : List α} {ys : List β}
    (h : xs.mapM f = some ys) (ne : xs ≠ []) : ys ≠ [] := by
  cases xs with
  | nil => exact absurd rfl ne
  | cons x xs =>
    rw [List.mapM_cons] at h
    obtain ⟨y, -, h⟩ := Option.bind_eq_some_iff.mp h
    obtain ⟨zs, -, h⟩ := Option.bind_eq_some_iff.mp h
    cases h
    exact List.cons_ne_nil _ _

theorem mapM_eq_some_map {α β : Type} {f : α → Option β} {g : α → β} {xs : List α}
    (h : ∀ x ∈ xs, f x = some (g x)) : xs.mapM f = some (xs.map g) := by
  induction xs with
  | nil => rfl
  | cons x xs ih =>
    rw [List.mapM_cons, h x (List.mem_cons_self ..), ih fun y hy => h y (List.mem_cons_of_mem _ hy)]
    rfl

/-- The labels of a name that keep to one direction each, if one of them runs backward. -/
structure AreLabels (labels : List (List Char)) : Prop where
  ne : labels ≠ []
  all : ∀ label ∈ labels, IsLabel label
  directed : (labels.any isBidirectional && !labels.all keepsDirection) = false

theorem exists_labels_of_fullForm {s name : List Char} (h : fullForm? s = some name) :
    ∃ labels, AreLabels labels ∧ name = Text.join ['.'] (labels.map asciiLabel) := by
  unfold fullForm? at h
  obtain ⟨mapped, -, h⟩ := Option.bind_eq_some_iff.mp h
  obtain ⟨labels, hlabels, h⟩ := Option.bind_eq_some_iff.mp h
  split at h
  case isTrue => cases h
  rename_i hdirected
  obtain rfl := Option.some.inj h
  refine ⟨labels, ⟨?ne, fun label hlabel => ?all, Bool.eq_false_iff.mpr hdirected⟩, rfl⟩
  case ne => exact ne_nil_of_mapM_eq_some hlabels (Text.splitBy_ne_nil _ _)
  case all =>
    obtain ⟨part, hpart, hown⟩ := exists_of_mapM_eq_some hlabels label hlabel
    have hundotted := Text.not_mem_of_mem_split hpart
    rw [split_composed] at hpart
    obtain ⟨p, -, rfl⟩ := List.mem_map.mp hpart
    exact isLabel_of_ownScript hown (composed_composed p) hundotted

section Labels

variable {labels : List (List Char)} (h : AreLabels labels)

include h

theorem AreLabels.isWritten {c : Char} (hc : c ∈ Text.join ['.'] (labels.map asciiLabel)) :
    IsWritten c := by
  rcases Text.mem_of_mem_join hc with hc | ⟨part, hp, hc⟩
  · rw [List.mem_singleton.mp hc]
    decide
  · obtain ⟨label, hm, rfl⟩ := List.mem_map.mp hp
    exact ((h.all label hm).isWritten_asciiLabel hc).1

/-- **A name that was put together comes out again.** -/
theorem AreLabels.fullForm?_join : fullForm? (Text.join ['.'] (labels.map asciiLabel)) =
    some (Text.join ['.'] (labels.map asciiLabel)) := by
  have hsplit : Text.split '.' (Text.join ['.'] (labels.map asciiLabel)) = labels.map asciiLabel := by
    refine Text.split_join (by simpa using h.ne) fun part hp c hc => ?_
    obtain ⟨label, hm, rfl⟩ := List.mem_map.mp hp
    exact beq_false_of_ne ((h.all label hm).isWritten_asciiLabel hc).2
  have hown : (labels.map asciiLabel).mapM ownScript? = some labels := by
    rw [List.mapM_map]
    exact (mapM_eq_some_map fun label hm => (h.all label hm).ownScript?_asciiLabel).trans
      (congrArg some (List.map_id _))
  have hmapped := mapM_eq_some_map fun c hc => mapChar?_of_isWritten (h.isWritten hc)
  have hflatten : ∀ s : List Char, (s.map ([·])).flatten = s := List.flatMap_singleton'
  rw [fullForm?, hmapped]
  simp only [Option.bind_eq_bind, Option.bind_some, hflatten,
    composed_ascii fun c hc => (h.isWritten hc).ascii, hsplit, hown, h.directed]
  rfl

end Labels

/-- A plain name in small letters is its own form. -/
theorem plainForm?_eq_some {s : List Char} (h : ∀ c ∈ s, IsWritten c) : plainForm? s = some s := by
  have hfree : s.any isForbidden = false :=
    List.any_eq_false.mpr fun c hc => by simp [(h c hc).allowed]
  rw [plainForm?, hfree, map_toLower h]
  rfl

/-- The form of a plain name is written in small letters. -/
theorem isWritten_of_plainForm {s name : List Char} (plain : isPlain s = true)
    (h : plainForm? s = some name) : name = s.map Char.toLower ∧ ∀ c ∈ name, IsWritten c := by
  unfold plainForm? at h
  split at h
  case isTrue => cases h
  rename_i hfree
  obtain rfl := Option.some.inj h
  refine ⟨rfl, fun c hc => ?_⟩
  obtain ⟨d, hd, rfl⟩ := List.mem_map.mp hc
  have hascii := isAscii_iff.mp (List.all_eq_true.mp (Bool.and_eq_true_iff.mp plain).1 d hd)
  have hlower := Text.of_ascii (p := fun c => c.toLower.toNat < 0x80 ∧
    (isForbidden c.toLower = true → isForbidden c = true)) (by decide) hascii
  refine ⟨hlower.1, toLower_toLower d, ?_⟩
  rw [Bool.eq_false_iff]
  exact fun hforbidden => hfree (List.any_eq_true.mpr ⟨d, hd, hlower.2 hforbidden⟩)

/-- The case of its letters does not decide whether a name is plain. -/
theorem isPlain_map_toLower {s : List Char} (h : isPlain s = true) :
    isPlain (s.map Char.toLower) = true := by
  rw [isPlain, Bool.and_eq_true, List.all_eq_true, List.all_eq_true] at h ⊢
  have hdot : ∀ c : Char, (c.toLower == '.') = (c == '.') := fun c => by
    rw [Bool.eq_iff_iff, beq_iff_eq, beq_iff_eq]
    exact ⟨toLower_eq_dot, fun heq => by rw [heq]; rfl⟩
  have hsplit : Text.split '.' (s.map Char.toLower) =
      (Text.split '.' s).map (List.map Char.toLower) :=
    Text.splitBy_map fun c _ => hdot c
  constructor
  · intro c hc
    obtain ⟨d, hd, rfl⟩ := List.mem_map.mp hc
    have hascii := isAscii_iff.mp (h.1 d hd)
    exact isAscii_iff.mpr (Text.of_ascii (p := fun c => c.toLower.toNat < 0x80) (by decide) hascii)
  · intro label hlabel
    rw [hsplit] at hlabel
    obtain ⟨part, hpart, rfl⟩ := List.mem_map.mp hlabel
    have hmarked := h.2 part hpart
    have hlower : (part.map Char.toLower).map Char.toLower = part.map Char.toLower :=
      (List.map_map ..).trans (List.map_congr_left fun c _ => toLower_toLower c)
    rwa [marked?, hlower]

/-- Every form is in small letters of ASCII. -/
theorem isWritten_of_toAscii {s name : List Char} (h : toAscii? s = some name) :
    ∀ c ∈ name, IsWritten c := by
  unfold toAscii? at h
  split at h
  case isTrue hplain => exact (isWritten_of_plainForm hplain h).2
  case isFalse =>
    obtain ⟨labels, hlabels, rfl⟩ := exists_labels_of_fullForm h
    exact fun c hc => hlabels.isWritten hc

/-- **A domain name in its ASCII form holds no forbidden character.** -/
theorem isForbidden_of_toAscii {s name : List Char} (h : toAscii? s = some name) :
    ∀ c ∈ name, isForbidden c = false :=
  fun c hc => (isWritten_of_toAscii h c hc).allowed

/-- **A name in its ASCII form stands for itself**, so writing an address and reading it again changes
    nothing. -/
theorem toAscii?_of_toAscii?_eq_some {s name : List Char} (h : toAscii? s = some name) :
    toAscii? name = some name := by
  have hwritten := isWritten_of_toAscii h
  unfold toAscii? at h ⊢
  split at h
  case isTrue hplain =>
    obtain ⟨rfl, -⟩ := isWritten_of_plainForm hplain h
    rw [if_pos (isPlain_map_toLower hplain)]
    exact plainForm?_eq_some hwritten
  case isFalse =>
    obtain ⟨labels, hlabels, rfl⟩ := exists_labels_of_fullForm h
    split
    · exact plainForm?_eq_some hwritten
    · exact hlabels.fullForm?_join

end TrialProtocol.Idna
