import Mathlib.Data.List.Chain
import Mathlib.Data.List.Nodup
import Mathlib.Data.Nat.Bitwise
import Mathlib.Tactic.MkIffOfInductiveProp
import TrialProtocol.Idna.Composition
import TrialProtocol.Proofs.Text.Parts

/-!
# Taking characters apart

What the table of pairs and the arithmetic of Hangul say about single characters. Taking a character
apart leaves atoms (`of_mem_decompose`), and a composed character comes apart into what it was made of
(`decompose_of_compose`). For the table that rests on facts about all its rows: wholes are listed once,
no second character is a whole, and no first character is a whole whose first character is one again, so
that two steps are enough.
-/

namespace TrialProtocol.Idna

/-! ## 1. The table of pairs

The facts about the table that are checked by evaluation. Whether one of many code points is among many
others is looked up in a number that has one bit for each of them. -/

/-- The number with the bits of some code points. -/
def bitsOf (codes : List Nat) : Nat :=
  codes.foldr (fun n bits => 1 <<< n ||| bits) 0

theorem testBit_bitsOf {codes : List Nat} {n : Nat} :
    (bitsOf codes).testBit n = true ↔ n ∈ codes := by
  induction codes with
  | nil => simp [bitsOf]
  | cons m codes ih =>
    have hm : (1 <<< m).testBit n = true ↔ n = m := by
      rw [Nat.one_shiftLeft, Nat.testBit_two_pow, decide_eq_true_iff, eq_comm]
    rw [bitsOf, List.foldr_cons, Nat.testBit_or, Bool.or_eq_true, hm, List.mem_cons]
    exact or_congr_right ih

/-- The characters that are wholes. -/
def wholeBits : Nat :=
  bitsOf (pairTable.map (·.whole.toNat))

/-- The wholes with a whole in front. -/
def twofoldBits : Nat :=
  bitsOf ((pairTable.filter fun p => wholeBits.testBit p.first.toNat).map (·.whole.toNat))

/-- The code points of a pair are where no other rule applies: the whole and the second character are
    not ASCII, the first is no dot, nothing is a syllable of Hangul and the whole is no letter of
    Hangul. -/
@[mk_iff]
structure Pair.IsPlain (p : Pair) : Prop where
  whole_beyond : 0x80 ≤ p.whole.toNat
  second_beyond : 0x80 ≤ p.second.toNat
  first_ne_dot : p.first ≠ '.'
  noLetter : p.whole.toNat < 0x1100 ∨ 0x1200 ≤ p.whole.toNat
  whole_noSyllable : isSyllable p.whole = false
  first_noSyllable : isSyllable p.first = false
  second_noSyllable : isSyllable p.second = false

instance (p : Pair) : Decidable p.IsPlain :=
  decidable_of_iff' _ (Pair.isPlain_iff p)

theorem isChain_pairTable : pairTable.IsChain fun p q => p.whole.toNat < q.whole.toNat := by
  decide +kernel

theorem all_isPlain : (pairTable.all fun p => decide p.IsPlain) = true := by
  decide +kernel

theorem all_second : (pairTable.all fun p => !wholeBits.testBit p.second.toNat) = true := by
  decide +kernel

theorem all_first : (pairTable.all fun p => !twofoldBits.testBit p.first.toNat) = true := by
  decide +kernel

/-! ## 2. Taking apart -/

/-- A character that is composed of no others. -/
structure IsAtom (c : Char) : Prop where
  noSyllable : isSyllable c = false
  noWhole : ∀ p ∈ pairTable, p.whole ≠ c

section Pairs

variable {p : Pair} (hp : p ∈ pairTable)

include hp

theorem Pair.isPlain_of_mem : p.IsPlain :=
  Text.of_all all_isPlain p hp

/-- Wholes are listed once. -/
theorem find?_whole : pairTable.find? (·.whole == p.whole) = some p := by
  have hnodup : (pairTable.map (·.whole.toNat)).Nodup :=
    (List.pairwise_map.mpr (List.isChain_iff_pairwise.mp isChain_pairTable)).imp Nat.ne_of_lt
  have hfound : (pairTable.find? (·.whole == p.whole)).isSome :=
    List.find?_isSome.mpr ⟨p, hp, beq_self_eq_true p.whole⟩
  obtain ⟨q, hq⟩ := Option.isSome_iff_exists.mp hfound
  have hmatches := List.find?_some hq
  have heq : q.whole = p.whole := beq_iff_eq.mp hmatches
  rw [hq, List.inj_on_of_nodup_map hnodup (List.mem_of_find?_eq_some hq) hp (by rw [heq])]

theorem isAtom_second : IsAtom p.second where
  noSyllable := (Pair.isPlain_of_mem hp).second_noSyllable
  noWhole q hq heq := by
    have h := List.all_eq_true.mp all_second p hp
    rw [Bool.not_eq_true', Bool.eq_false_iff] at h
    exact h (testBit_bitsOf.mpr (List.mem_map.mpr ⟨q, hq, by rw [heq]⟩))

/-- The first character of a pair is an atom, or the whole of a pair of atoms. -/
theorem isAtom_first : IsAtom p.first ∨
    ∃ q ∈ pairTable, q.whole = p.first ∧ IsAtom q.first ∧ IsAtom q.second := by
  by_cases hatom : ∀ q ∈ pairTable, q.whole ≠ p.first
  · exact .inl ⟨(Pair.isPlain_of_mem hp).first_noSyllable, hatom⟩
  push Not at hatom
  obtain ⟨q, hq, heq⟩ := hatom
  have hsyllable := (Pair.isPlain_of_mem hq).first_noSyllable
  refine .inr ⟨q, hq, heq, ⟨hsyllable, fun r hr hfirst => ?_⟩, isAtom_second hq⟩
  have htwofold : twofoldBits.testBit p.first.toNat = true := by
    have hwhole : wholeBits.testBit q.first.toNat = true :=
      testBit_bitsOf.mpr (List.mem_map.mpr ⟨r, hr, by rw [hfirst]⟩)
    exact testBit_bitsOf.mpr (List.mem_map.mpr
      ⟨q, List.mem_filter.mpr ⟨hq, hwhole⟩, by rw [heq]⟩)
  have h := List.all_eq_true.mp all_first p hp
  rw [htwofold] at h
  cases h

end Pairs

theorem decompose_atom {c : Char} (h : IsAtom c) (steps : Nat) : decompose steps c = [c] := by
  cases steps with
  | zero => rfl
  | succ steps =>
    have hfind : pairTable.find? (·.whole == c) = none :=
      List.find?_eq_none.mpr fun p hp => by simpa using h.noWhole p hp
    rw [decompose, h.noSyllable, hfind]
    rfl

theorem decompose_whole {p : Pair} (hp : p ∈ pairTable) (steps : Nat) :
    decompose (steps + 1) p.whole = decompose steps p.first ++ [p.second] := by
  rw [decompose, (Pair.isPlain_of_mem hp).whole_noSyllable, find?_whole hp]
  simp only [decompose_atom (isAtom_second hp), Bool.false_eq_true, if_false]

/-- Two steps take a pair apart. -/
theorem decompose_first {p : Pair} (hp : p ∈ pairTable) (steps : Nat) :
    decompose (steps + 1) p.first = decompose 1 p.first := by
  rcases isAtom_first hp with hatom | ⟨q, hq, heq, hfirst, -⟩
  · rw [decompose_atom hatom, decompose_atom hatom]
  · rw [← heq, decompose_whole hq, decompose_whole hq, decompose_atom hfirst, decompose_atom hfirst]

/-! ## 3. Hangul -/

theorem toNat_ofNat {n : Nat} (h : n < 0xD800) : (Char.ofNat n).toNat = n := by
  rw [Char.ofNat, dif_pos (Or.inl h)]
  rfl

/-- The letters of Hangul are atoms. -/
theorem isAtom_letter {n : Nat} (low : 0x1100 ≤ n) (high : n < 0x1200) : IsAtom (Char.ofNat n) := by
  have hn : (Char.ofNat n).toNat = n := toNat_ofNat (by omega)
  constructor
  case noSyllable =>
    simp only [isSyllable, syllableBase, hn, Bool.and_eq_false_iff, decide_eq_false_iff_not]
    omega
  case noWhole =>
    intro p hp heq
    have := (Pair.isPlain_of_mem hp).noLetter
    rw [heq, hn] at this
    omega

theorem isSyllable_iff {c : Char} :
    isSyllable c = true ↔ 0xAC00 ≤ c.toNat ∧ c.toNat < 0xD7A4 := by
  rw [isSyllable, Bool.and_eq_true, decide_eq_true_iff, decide_eq_true_iff]
  rfl

/-- The syllable of three letters, each counted from the first one of its place. A third letter of
    zero is none. -/
def syllable (l v t : Nat) : Char :=
  Char.ofNat (syllableBase + (l * 588 + v * 28 + t))

/-- A number below the number of syllables is that of a syllable. -/
theorem exists_letters {k : Nat} (h : k < syllableCount) :
    ∃ l v t, l < 19 ∧ v < 21 ∧ t < 28 ∧ k = l * 588 + v * 28 + t := by
  unfold syllableCount at h
  exact ⟨k / 588, k % 588 / 28, k % 28, by omega, by omega, by omega, by omega⟩

theorem syllable_lt {l v t : Nat} (hl : l < 19) (hv : v < 21) (ht : t < 28) :
    l * 588 + v * 28 + t < 11172 := by
  omega

theorem ofNat_of_toNat_eq {c : Char} {n : Nat} (h : c.toNat = n) : Char.ofNat n = c := by
  rw [← h, Char.ofNat_toNat]

theorem exists_syllable {c : Char} (h : isSyllable c = true) :
    ∃ l v t, l < 19 ∧ v < 21 ∧ t < 28 ∧ c = syllable l v t := by
  obtain ⟨low, high⟩ := isSyllable_iff.mp h
  obtain ⟨k, hk⟩ := Nat.exists_eq_add_of_le low
  obtain ⟨l, v, t, hl, hv, ht, rfl⟩ := exists_letters (k := k) (by unfold syllableCount; omega)
  exact ⟨l, v, t, hl, hv, ht, (ofNat_of_toNat_eq hk).symm⟩

/-- **A syllable comes apart into its letters.** -/
theorem decompose_syllable {l v t : Nat} (hl : l < 19) (hv : v < 21) (ht : t < 28) (steps : Nat) :
    decompose (steps + 1) (syllable l v t) =
      [Char.ofNat (0x1100 + l), Char.ofNat (0x1161 + v)] ++
        if t = 0 then [] else [Char.ofNat (0x11A7 + t)] := by
  have hlt := syllable_lt hl hv ht
  have hnat : (syllable l v t).toNat = syllableBase + (l * 588 + v * 28 + t) :=
    toNat_ofNat (by unfold syllableBase; omega)
  have hsyllable : isSyllable (syllable l v t) = true := by
    rw [isSyllable_iff, hnat]
    unfold syllableBase
    omega
  have hfirst : (l * 588 + v * 28 + t) / 588 = l := by omega
  have hsecond : (l * 588 + v * 28 + t) % 588 / 28 = v := by omega
  have hthird : (l * 588 + v * 28 + t) % 28 = t := by omega
  rw [decompose, if_pos hsyllable, hnat, syllableLetters, Nat.add_sub_cancel_left, hfirst, hsecond,
    hthird]
  split <;> rfl

/-- Two letters make a syllable, and such a syllable takes a third letter. -/
theorem of_composeHangul {a b whole : Char} (h : composeHangul? a b = some whole) :
    (∃ l v, l < 19 ∧ v < 21 ∧ a = Char.ofNat (0x1100 + l) ∧ b = Char.ofNat (0x1161 + v) ∧
      whole = syllable l v 0) ∨
    ∃ l v t, l < 19 ∧ v < 21 ∧ 0 < t ∧ t < 28 ∧ a = syllable l v 0 ∧
      b = Char.ofNat (0x11A7 + t) ∧ whole = syllable l v t := by
  unfold composeHangul? at h
  simp only at h
  split at h
  case isTrue hrange =>
    obtain rfl := Option.some.inj h
    obtain ⟨l, hl⟩ := Nat.exists_eq_add_of_le hrange.1
    obtain ⟨v, hv⟩ := Nat.exists_eq_add_of_le hrange.2.2.1
    refine .inl ⟨l, v, by omega, by omega, (ofNat_of_toNat_eq hl).symm,
      (ofNat_of_toNat_eq hv).symm, ?_⟩
    rw [hl, hv, Nat.add_sub_cancel_left, Nat.add_sub_cancel_left, Nat.add_assoc, syllable,
      Nat.add_zero]
  split at h
  case isFalse => cases h
  case isTrue hrange =>
    obtain rfl := Option.some.inj h
    obtain ⟨k, hk⟩ := Nat.exists_eq_add_of_le hrange.1
    obtain ⟨t, ht⟩ := Nat.exists_eq_add_of_le (Nat.le_of_succ_le hrange.2.2.2.1)
    have hcount : k < syllableCount := by omega
    have hdivides := hrange.2.2.1
    rw [hk, Nat.add_sub_cancel_left] at hdivides
    obtain ⟨l, v, third, hl, hv, hthird, rfl⟩ := exists_letters hcount
    obtain rfl : third = 0 := by omega
    refine .inr ⟨l, v, t, hl, hv, by omega, by omega, (ofNat_of_toNat_eq hk).symm,
      (ofNat_of_toNat_eq ht).symm, ?_⟩
    rw [hk, ht, Nat.add_sub_cancel_left, Nat.add_assoc, Nat.add_zero, syllable]

/-! ## 4. Any character -/

/-- What becomes of a character that is taken apart. -/
theorem isSyllable_or (c : Char) :
    isSyllable c = true ∨ IsAtom c ∨ ∃ p ∈ pairTable, p.whole = c := by
  by_cases hsyllable : isSyllable c = true
  · exact .inl hsyllable
  by_cases hwhole : ∃ p ∈ pairTable, p.whole = c
  · exact .inr (.inr hwhole)
  · exact .inr (.inl ⟨Bool.eq_false_iff.mpr hsyllable, fun p hp heq => hwhole ⟨p, hp, heq⟩⟩)

/-- A letter of Hangul is an atom and no dot. -/
theorem isAtom_of_mem_syllable {l v t : Nat} (hl : l < 19) (hv : v < 21) (ht : t < 28) {d : Char}
    (hd : d ∈ decompose 4 (syllable l v t)) : IsAtom d ∧ d ≠ '.' := by
  have hletter : ∀ n, 0x1100 ≤ n → n < 0x1200 → IsAtom (Char.ofNat n) ∧ Char.ofNat n ≠ '.' := by
    refine fun n low high => ⟨isAtom_letter low high, fun heq => ?_⟩
    have hn := toNat_ofNat (n := n) (by omega)
    rw [heq] at hn
    have hdot : '.'.toNat = 46 := rfl
    omega
  rw [decompose_syllable hl hv ht] at hd
  rcases List.mem_append.mp hd with hd | hd
  · simp only [List.mem_cons, List.not_mem_nil, or_false] at hd
    rcases hd with rfl | rfl
    · exact hletter _ (by omega) (by omega)
    · exact hletter _ (by omega) (by omega)
  · split at hd
    · cases hd
    · rw [List.mem_singleton.mp hd]
      exact hletter _ (by omega) (by omega)

/-- A part of a pair that is taken apart is an atom and no dot. -/
theorem isAtom_of_mem_whole {p : Pair} (hp : p ∈ pairTable) {d : Char}
    (hd : d ∈ decompose 4 p.whole) : IsAtom d ∧ d ≠ '.' := by
  have hfree : ∀ q ∈ pairTable, q.first ≠ '.' ∧ q.second ≠ '.' := fun q hq =>
    ⟨(Pair.isPlain_of_mem hq).first_ne_dot,
      fun heq => absurd (Pair.isPlain_of_mem hq).second_beyond (by rw [heq]; decide)⟩
  rw [decompose_whole hp, List.mem_append, List.mem_singleton] at hd
  rcases hd with hd | rfl
  · rcases isAtom_first hp with hatom | ⟨q, hq, heq, hfirst, hsecond⟩
    · rw [decompose_atom hatom, List.mem_singleton] at hd
      subst hd
      exact ⟨hatom, (hfree p hp).1⟩
    · rw [← heq, decompose_whole hq, decompose_atom hfirst] at hd
      simp only [List.singleton_append, List.mem_cons, List.not_mem_nil, or_false] at hd
      rcases hd with rfl | rfl
      · exact ⟨hfirst, (hfree q hq).1⟩
      · exact ⟨hsecond, (hfree q hq).2⟩
  · exact ⟨isAtom_second hp, (hfree p hp).2⟩

/-- Four steps leave atoms, and make no dot of anything else. -/
theorem of_mem_decompose {c d : Char} (hd : d ∈ decompose 4 c) :
    IsAtom d ∧ (d = '.' → c = '.') := by
  rcases isSyllable_or c with hsyllable | hatom | ⟨p, hp, rfl⟩
  · obtain ⟨l, v, t, hl, hv, ht, rfl⟩ := exists_syllable hsyllable
    exact (isAtom_of_mem_syllable hl hv ht hd).imp_right fun hne heq => absurd heq hne
  · rw [decompose_atom hatom, List.mem_singleton] at hd
    subst hd
    exact ⟨hatom, id⟩
  · exact (isAtom_of_mem_whole hp hd).imp_right fun hne heq => absurd heq hne

theorem decompose_of_composeHangul {a b whole : Char} (h : composeHangul? a b = some whole) :
    decompose 4 whole = decompose 4 a ++ [b] := by
  rcases of_composeHangul h with ⟨l, v, hl, hv, rfl, rfl, rfl⟩ |
    ⟨l, v, t, hl, hv, hpos, ht, rfl, rfl, rfl⟩
  · have hatom : IsAtom (Char.ofNat (0x1100 + l)) := isAtom_letter (by omega) (by omega)
    rw [decompose_syllable hl hv (by omega), decompose_atom hatom]
    rfl
  · rw [decompose_syllable hl hv ht, decompose_syllable hl hv (by omega), if_pos rfl,
      if_neg hpos.ne']
    rfl

/-- **A composed character comes apart into what it was made of.** -/
theorem decompose_of_compose {a b whole : Char} (h : compose? a b = some whole) :
    decompose 4 whole = decompose 4 a ++ [b] := by
  unfold compose? at h
  split at h
  · rename_i hc
    cases h
    exact decompose_of_composeHangul hc
  · -- Taking apart the first character of a pair needs no third step.
    obtain ⟨p, hp, rfl⟩ := Option.map_eq_some_iff.mp h
    have hmem := List.mem_of_find?_eq_some hp
    have hparts := List.find?_some hp
    simp only [Bool.and_eq_true, beq_iff_eq] at hparts
    obtain ⟨rfl, rfl⟩ := hparts
    rw [decompose_whole hmem, decompose_first hmem 2, decompose_first hmem 3]

end TrialProtocol.Idna
