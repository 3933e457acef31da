import TrialProtocol.Proofs.Decimal.Value
import TrialProtocol.Proofs.Experiment.Validation
import TrialProtocol.Proofs.RoundTrip

/-!
# The order beyond the range

A point is kept within 64 bits, in two steps: first the exponent is cut off, then its sum with the place
of the first digit. The numbers still have an order, that of their scaled forms, but beyond the range it
is not always the order of what was written: digits that were to be compared at different points are
compared at the same one.

* `compareValue_isPreorder`: whatever is cut off, any two numbers are compared, and consistently.
* `areReversed_of_between`: a number that is cut off changes places with those it is moved across.
* `exists_areReversed`: there is always one, within the range, save for the least powers of ten.
* `isRanked_iff`: which numbers keep their place among each other. Bounds of that kind are not refused
  as inverted unless they are, but others may be (`not_ordered_beyond_range`).
-/

namespace TrialProtocol.Decimal

/-! ## 1. A total preorder -/

/-- Decimals are ordered like the rational numbers that their scaled forms denote, so the laws of that
    order are theirs. -/
instance transCmp_compareValue : Std.TransCmp compareValue where
  eq_swap {a b} := by
    rw [compareValue_eq_compare_scaled, compareValue_eq_compare_scaled]
    exact Std.OrientedCmp.eq_swap
  isLE_trans {a b c} := by
    simp only [compareValue_eq_compare_scaled]
    exact Std.TransCmp.isLE_trans

/-- **Comparison by value is a total preorder** on all decimals, of however many digits and with
    whatever exponents. -/
theorem compareValue_isPreorder (a b c : Decimal) :
    a.compareValue a = .eq ∧
    b.compareValue a = (a.compareValue b).swap ∧
    (a.compareValue b ≠ .gt → b.compareValue c ≠ .gt → a.compareValue c ≠ .gt) ∧
    (a.compareValue b = .eq → a.compareValue c = b.compareValue c ∧
      c.compareValue a = c.compareValue b) ∧
    (a.display = b.display → a.compareValue b = .eq) := by
  have self : a.compareValue a = .eq := Std.ReflCmp.compare_self
  refine ⟨self, Std.OrientedCmp.eq_swap, fun le le' => ?_, fun eq => ?_, fun same => ?_⟩
  · exact Ordering.isLE_iff_ne_gt.mp (Std.TransCmp.isLE_trans (Ordering.isLE_iff_ne_gt.mpr le)
      (Ordering.isLE_iff_ne_gt.mpr le'))
  · exact ⟨Std.TransCmp.congr_left eq, Std.TransCmp.congr_right eq⟩
  · have hparse := a.parse_display
    rw [same, b.parse_display] at hparse
    rw [Except.ok.inj hparse]
    exact self

/-- A digit times a power of ten. -/
def single (digit : Digit) (exponent : Int) : Decimal :=
  ofDigits false [digit] [] (some (Exponent.ofInt exponent))

theorem compareValue_isPreorder_sample :
    (single 1 100000000000000000000).compareValue (single 2 10000000000000000000) ≠ .gt ∧
      (single 2 10000000000000000000).compareValue (single 3 1000000000000000000000) ≠ .gt ∧
      (single 1 100000000000000000000).compareValue (single 3 1000000000000000000000) ≠ .gt := by
  have low : (single 1 100000000000000000000).compareValue (single 2 10000000000000000000) ≠ .gt := by
    decide +kernel
  have high : (single 2 10000000000000000000).compareValue (single 3 1000000000000000000000) ≠ .gt := by
    decide +kernel
  obtain ⟨-, -, trans, -, -⟩ := compareValue_isPreorder (single 1 100000000000000000000)
    (single 2 10000000000000000000) (single 3 1000000000000000000000)
  exact ⟨low, high, trans low high⟩

/-! ## 2. Numbers that change places -/

/-- **Two numbers change places** when they are compared. -/
def AreReversed (a b : Decimal) : Prop :=
  (a.value < b.value ∧ a.compareValue b = .gt) ∨ (b.value < a.value ∧ b.compareValue a = .gt)

theorem isSigned64_clamp64 (n : Int) : IsSigned64 (clamp64 n) := by
  rw [IsSigned64, clamp64]
  omega

/-- The factor that a sign stands for. -/
def unit (negative : Bool) : ℚ :=
  if negative then -1 else 1

theorem value_eq_unit {d : Decimal} (nonzero : d.coreDigits ≠ []) :
    d.value = unit d.negative * (fractionOf d.coreDigits * 10 ^ (d.exponentValue + d.place)) := by
  rw [value_eq, sign_eq nonzero, unit]
  push_cast
  rfl

theorem scaled_eq_unit {d : Decimal} (nonzero : d.coreDigits ≠ []) :
    d.scaled = unit d.negative * (fractionOf d.coreDigits * 10 ^ d.point) := by
  rw [scaled, sign_eq nonzero, unit, magnitude]
  push_cast
  rfl

/-- **A number changes places with those between what it denotes and what it is taken for.** -/
theorem areReversed_of_between {d x : Decimal} (kept : x.IsKept)
    (between : (d.value < x.value ∧ x.value < d.scaled) ∨ (d.scaled < x.value ∧ x.value < d.value)) :
    AreReversed d x := by
  rcases between with ⟨above, below⟩ | ⟨below, above⟩
  · refine .inl ⟨above, ?_⟩
    rw [compareValue_eq_compare_scaled, kept.scaled_eq]
    exact compare_gt_iff_gt.mpr below
  · refine .inr ⟨above, ?_⟩
    rw [compareValue_eq_compare_scaled, kept.scaled_eq]
    exact compare_gt_iff_gt.mpr below

/-- Numbers of one sign are between others if their absolute values are. -/
theorem between_of_unit {negative : Bool} {v s y : ℚ}
    (h : (v < y ∧ y < s) ∨ (s < y ∧ y < v)) :
    (unit negative * v < unit negative * y ∧ unit negative * y < unit negative * s) ∨
      (unit negative * s < unit negative * y ∧ unit negative * y < unit negative * v) := by
  cases negative with
  | true =>
    simp only [unit, if_true]
    rcases h with ⟨one, two⟩ | ⟨one, two⟩
    · exact .inr ⟨by linarith, by linarith⟩
    · exact .inl ⟨by linarith, by linarith⟩
  | false =>
    simpa only [unit, Bool.false_eq_true, if_false, one_mul] using h

/-! ## 3. Numbers within the range -/

/-- The digits behind the point, times ten to a power. -/
def ofFraction (negative : Bool) (digits : List Digit) (point : Int) : Decimal :=
  ofDigits negative [0] digits (some (Exponent.ofInt point))

section Fraction

variable {negative : Bool} {first : Digit} {more : List Digit} {point : Int}

theorem value_ofFraction (digits : List Digit) : (ofFraction negative digits point).value =
    unit negative * (fractionOf digits * 10 ^ point) := by
  have hdigits : (ofFraction negative digits point).coefficient = valueOf digits := by
    rw [ofFraction, coefficient_ofDigits, valueOf_append]
    simp [valueOf]
  have hpower : (ofFraction negative digits point).power = point - digits.length := by
    rw [power, exponentValue, ofFraction, ofDigits, Option.map_some, Option.getD_some, value_ofInt]
  have hten : (10 : ℚ) ≠ 0 := by norm_num
  rw [value, hdigits, hpower, zpow_sub₀ hten, zpow_natCast, fractionOf, unit]
  show (if negative = true then (-1 : ℚ) else 1) * _ = _
  ring

/-- It is within the range if the power is and the first digit is not zero. -/
theorem isInRange_ofFraction (nonzero : first ≠ 0) (fits : IsSigned64 point) :
    (ofFraction negative (first :: more) point).IsInRange := by
  have hexponent : (ofFraction negative (first :: more) point).exponentValue = point := by
    rw [exponentValue, ofFraction, ofDigits, Option.map_some, Option.getD_some, value_ofInt]
  have hzeros : (ofFraction negative (first :: more) point).zerosInFront = 1 := by
    show (((0 : Digit) :: first :: more).takeWhile (· == 0)).length = 1
    rw [List.takeWhile_cons_of_pos (by rfl), List.takeWhile_cons_of_neg (by simpa using nonzero)]
    rfl
  have hplace : (ofFraction negative (first :: more) point).place = 0 := by
    rw [place, hzeros]
    rfl
  refine ⟨fun _ => ?_, fun _ => ?_⟩
  · rwa [hexponent]
  · rwa [hexponent, hplace, add_zero]

end Fraction

theorem value_single (digit : Digit) (exponent : Int) :
    (single digit exponent).value = digit.val * 10 ^ exponent := by
  have hdigits : (single digit exponent).coefficient = digit.val := by
    rw [single, coefficient_ofDigits]
    simp [valueOf]
  have hpower : (single digit exponent).power = exponent := by
    rw [power, exponentValue, single, ofDigits, Option.map_some, Option.getD_some, value_ofInt]
    exact sub_zero exponent
  rw [value, hdigits, hpower]
  exact one_mul _

/-- The larger power of ten makes the larger number. -/
theorem value_single_lt (a : Digit) {b : Digit} (nonzero : b ≠ 0) {m n : Int} (lt : m < n) :
    (single a m).value < (single b n).value := by
  have ha : (a.val : ℚ) < 10 := by exact_mod_cast a.isLt
  have hb : (1 : ℚ) ≤ b.val := by
    exact_mod_cast Nat.one_le_iff_ne_zero.mpr fun zero => nonzero (Fin.ext zero)
  rw [value_single, value_single]
  calc (a.val : ℚ) * 10 ^ m
      < 10 * 10 ^ m := mul_lt_mul_of_pos_right ha (by positivity)
    _ = 10 ^ (m + 1) := by
      rw [zpow_add_one₀ (by norm_num), mul_comm]
    _ ≤ 10 ^ n := zpow_le_zpow_right₀ (by norm_num) lt
    _ ≤ b.val * 10 ^ n := le_mul_of_one_le_left (by positivity) hb

/-! ## 4. Numbers that keep their place -/

/-- **A power of ten below the range**, which counts as the least one within it. -/
structure IsLeast (d : Decimal) : Prop where
  digits : d.coreDigits = [1]
  point : d.point = -0x8000000000000000
  below : d.exponentValue + d.place < d.point

/-- **A number that keeps its place**: its point is kept, or it is the least of all. -/
def IsRanked (d : Decimal) : Prop :=
  d.IsKept ∨ d.IsLeast

/-- The least number within the range that is larger than zero. -/
def least : ℚ :=
  fractionOf [1] * 10 ^ (-0x8000000000000000 : Int)

theorem fractionOf_one : fractionOf [1] = 1 / 10 := by
  simp [fractionOf, valueOf]

theorem least_pos : 0 < least := by
  unfold least
  generalize (-0x8000000000000000 : Int) = lowest
  rw [fractionOf_one]
  positivity

section Nonzero

variable {d : Decimal} (nonzero : d.coreDigits ≠ [])

include nonzero

/-- What a number other than zero is taken for is not below the range. -/
theorem least_le_magnitude : least ≤ d.magnitude := by
  have hpoint : -0x8000000000000000 ≤ d.point := (isSigned64_clamp64 _).1
  unfold least magnitude
  generalize (-0x8000000000000000 : Int) = lowest at hpoint
  rw [fractionOf_one]
  have hpower : (10 : ℚ) ^ lowest ≤ 10 ^ d.point := zpow_le_zpow_right₀ (by norm_num) hpoint
  exact mul_le_mul (tenth_le_fractionOf_coreDigits nonzero) hpower (by positivity)
    (fractionOf_nonneg _)

/-- The first digit of the scaled form is not zero. -/
theorem exists_coreDigits_eq_cons : ∃ first more, first ≠ 0 ∧ d.coreDigits = first :: more := by
  obtain ⟨first, more, eq⟩ := List.exists_cons_of_ne_nil nonzero
  refine ⟨first, more, fun zero => ?_, eq⟩
  have tenth := tenth_le_fractionOf_coreDigits nonzero
  rw [eq, zero, fractionOf_cons, Fin.val_zero, Nat.cast_zero] at tenth
  linarith [fractionOf_lt_one more]

/-- Only a power of ten has the least digits. -/
theorem tenth_lt_fractionOf (more : d.coreDigits ≠ [1]) : 1 / 10 < fractionOf d.coreDigits := by
  refine lt_of_le_of_ne (tenth_le_fractionOf_coreDigits nonzero) fun eq => more ?_
  have stripped : IsStripped [1] := by
    unfold IsStripped
    decide
  have horder := compare_eq_compare_fractionOf d.isStripped_coreDigits stripped
  rw [fractionOf_one, ← eq, compare_eq_iff_eq.mpr rfl] at horder
  exact Std.LawfulEqOrd.eq_of_compare horder

end Nonzero

theorem IsInRange.isRanked {d : Decimal} (h : d.IsInRange) : d.IsRanked :=
  .inl h.isKept

/-- **Whoever does not keep its place changes it with a number within the range.** -/
theorem exists_areReversed {d : Decimal} (h : ¬d.IsRanked) : ∃ x : Decimal, x.IsInRange ∧
    AreReversed d x := by
  obtain ⟨notKept, notLeast⟩ := not_or.mp h
  obtain ⟨notZero, cut⟩ := not_or.mp notKept
  have nonzero : d.coreDigits ≠ [] := mt value_eq_zero_iff.mpr notZero
  have hten : (10 : ℚ) ≠ 0 := by norm_num
  -- it is enough to find digits and a power between the two absolute values
  have found : ∀ first more q, first ≠ 0 → IsSigned64 q →
      (fractionOf d.coreDigits * 10 ^ (d.exponentValue + d.place) <
          fractionOf (first :: more) * 10 ^ q ∧
        fractionOf (first :: more) * 10 ^ q < fractionOf d.coreDigits * 10 ^ d.point) ∨
      (fractionOf d.coreDigits * 10 ^ d.point < fractionOf (first :: more) * 10 ^ q ∧
        fractionOf (first :: more) * 10 ^ q <
          fractionOf d.coreDigits * 10 ^ (d.exponentValue + d.place)) →
      ∃ x : Decimal, x.IsInRange ∧ AreReversed d x := by
    intro first more q hfirst fits between
    have inRange : (ofFraction d.negative (first :: more) q).IsInRange :=
      isInRange_ofFraction hfirst fits
    refine ⟨_, inRange, areReversed_of_between inRange.isKept ?_⟩
    rw [value_eq_unit nonzero, scaled_eq_unit nonzero, value_ofFraction]
    exact between_of_unit between
  have fits : IsSigned64 d.point := isSigned64_clamp64 _
  have tenth := tenth_le_fractionOf_coreDigits nonzero
  have hpoint : (0 : ℚ) < 10 ^ d.point := by positivity
  rcases lt_or_gt_of_ne cut with below | above
  · -- cut off from above: one more digit makes it larger than what it is taken for
    obtain ⟨first, more, hfirst, eq⟩ := exists_coreDigits_eq_cons nonzero
    have hmore : fractionOf (first :: (more ++ [1])) =
        fractionOf d.coreDigits + 1 / 10 / 10 ^ d.coreDigits.length := by
      rw [← List.cons_append, ← eq, fractionOf_append, fractionOf_one]
    have hpos : (0 : ℚ) < 1 / 10 / 10 ^ d.coreDigits.length := by positivity
    have hsmall : (1 : ℚ) / 10 / 10 ^ d.coreDigits.length ≤ 1 / 10 :=
      div_le_self (by norm_num) (one_le_pow₀ (by norm_num))
    have hpower : (10 : ℚ) ^ d.point * 10 ≤ 10 ^ (d.exponentValue + d.place) := by
      rw [← zpow_add_one₀ hten]
      exact zpow_le_zpow_right₀ (by norm_num) (by omega)
    refine found first (more ++ [1]) d.point hfirst fits (.inr ⟨?_, ?_⟩)
    · exact mul_lt_mul_of_pos_right (by linarith) hpoint
    · calc fractionOf (first :: (more ++ [1])) * 10 ^ d.point
          < fractionOf d.coreDigits * 10 * 10 ^ d.point :=
            mul_lt_mul_of_pos_right (by linarith) hpoint
        _ = fractionOf d.coreDigits * (10 ^ d.point * 10) := by ring
        _ ≤ _ := mul_le_mul_of_nonneg_left hpower (fractionOf_nonneg _)
  · -- cut off from below: a power of ten at the same point, or something at the next lower one
    have hpower : (10 : ℚ) ^ (d.exponentValue + d.place) ≤ 10 ^ (d.point - 1) :=
      zpow_le_zpow_right₀ (by norm_num) (by omega)
    have hlower : (10 : ℚ) ^ d.point = 10 * 10 ^ (d.point - 1) := by
      rw [zpow_sub_one₀ hten]
      ring
    have hpos : (0 : ℚ) < 10 ^ (d.point - 1) := by positivity
    by_cases one : d.coreDigits = [1]
    · have hlow : IsSigned64 (d.point - 1) := by
        have hne : d.point ≠ -0x8000000000000000 := fun lowest => notLeast ⟨one, lowest, above⟩
        obtain ⟨low, high⟩ := fits
        exact ⟨by omega, by omega⟩
      have htwo : fractionOf [2] = 2 / 10 := by simp [fractionOf, valueOf]
      refine found 2 [] (d.point - 1) (by decide) hlow (.inl ⟨?_, ?_⟩)
      · rw [one, fractionOf_one, htwo]
        linarith
      · rw [one, fractionOf_one, htwo, hlower]
        linarith
    · refine found 1 [] d.point (by decide) fits (.inl ⟨?_, ?_⟩)
      · calc fractionOf d.coreDigits * 10 ^ (d.exponentValue + d.place)
            < 1 * 10 ^ (d.exponentValue + d.place) :=
              mul_lt_mul_of_pos_right (fractionOf_lt_one _) (by positivity)
          _ ≤ 1 * 10 ^ (d.point - 1) := mul_le_mul_of_nonneg_left hpower zero_le_one
          _ = fractionOf [1] * 10 ^ d.point := by
            rw [fractionOf_one, hlower]
            ring
      · rw [fractionOf_one]
        exact mul_lt_mul_of_pos_right (tenth_lt_fractionOf nonzero one) hpoint

/-- What a number that keeps its place is taken for: itself, or the least number with its sign. -/
theorem IsRanked.scaled_cases {d : Decimal} (h : d.IsRanked) :
    (d.scaled = d.value ∧ (d.value ≤ -least ∨ d.value = 0 ∨ least ≤ d.value)) ∨
      (d.scaled = least ∧ 0 < d.value ∧ d.value < least) ∨
      (d.scaled = -least ∧ -least < d.value ∧ d.value < 0) := by
  rcases h with kept | tiny
  · refine .inl ⟨kept.scaled_eq, ?_⟩
    by_cases zero : d.value = 0
    · exact .inr (.inl zero)
    · have nonzero : d.coreDigits ≠ [] := mt value_eq_zero_iff.mpr zero
      have large := least_le_magnitude nonzero
      rw [← kept.scaled_eq, scaled, sign_eq nonzero]
      cases d.negative with
      | true => exact .inl (by simpa using large)
      | false => exact .inr (.inr (by simpa using large))
  · have nonzero : d.coreDigits ≠ [] := by
      rw [tiny.digits]
      decide
    have hleast : fractionOf d.coreDigits * 10 ^ d.point = least := by
      rw [tiny.digits, tiny.point, least]
    have hbelow : fractionOf d.coreDigits * 10 ^ (d.exponentValue + d.place) < least := by
      rw [← hleast]
      refine mul_lt_mul_of_pos_left (zpow_lt_zpow_right₀ (by norm_num) tiny.below) ?_
      linarith [tenth_le_fractionOf_coreDigits nonzero]
    have hpos : 0 < fractionOf d.coreDigits * 10 ^ (d.exponentValue + d.place) :=
      mul_pos (d.isStripped_coreDigits.fractionOf_pos nonzero) (by positivity)
    rw [value_eq_unit nonzero, scaled_eq_unit nonzero, hleast]
    generalize fractionOf d.coreDigits * 10 ^ (d.exponentValue + d.place) = v at hbelow hpos
    cases d.negative with
    | true =>
      simp only [unit, if_true]
      exact .inr (.inr ⟨by linarith, by linarith, by linarith⟩)
    | false =>
      simp only [unit, Bool.false_eq_true, if_false, one_mul]
      exact .inr (.inl ⟨trivial, hpos, hbelow⟩)

/-- **Numbers that keep their place are taken for numbers in the same order.** -/
theorem IsRanked.scaled_le {a b : Decimal} (ha : a.IsRanked) (hb : b.IsRanked)
    (le : a.value ≤ b.value) : a.scaled ≤ b.scaled := by
  have pos := least_pos
  rcases ha.scaled_cases with ⟨ea, ra⟩ | ⟨ea, la, ua⟩ | ⟨ea, la, ua⟩
  · rcases hb.scaled_cases with ⟨eb, -⟩ | ⟨eb, lb, ub⟩ | ⟨eb, lb, ub⟩
    · rwa [ea, eb]
    · linarith
    · rw [ea, eb]
      rcases ra with low | zero | high <;> linarith
  · rcases hb.scaled_cases with ⟨eb, rb⟩ | ⟨eb, lb, ub⟩ | ⟨eb, lb, ub⟩
    · rw [ea, eb]
      rcases rb with low | zero | high <;> linarith
    · linarith
    · linarith
  · rcases hb.scaled_cases with ⟨eb, rb⟩ | ⟨eb, lb, ub⟩ | ⟨eb, lb, ub⟩ <;> linarith

/-- So they are compared the right way round, … -/
theorem IsRanked.compareValue_ne {a b : Decimal} (ha : a.IsRanked) (hb : b.IsRanked)
    (le : a.value ≤ b.value) : a.compareValue b ≠ .gt := by
  rw [compareValue_eq_compare_scaled, compare_le_iff_le]
  exact ha.scaled_le hb le

/-- … and never change places. -/
theorem IsRanked.not_areReversed {a b : Decimal} (ha : a.IsRanked) (hb : b.IsRanked) :
    ¬AreReversed a b := by
  rintro (⟨lt, gt⟩ | ⟨lt, gt⟩)
  · exact ha.compareValue_ne hb lt.le gt
  · exact hb.compareValue_ne ha lt.le gt

/-! ## 5. Bounds -/

/-- Bounds that are refused as inverted are compared the wrong way round. -/
theorem exists_of_invertedBounds {e : Experiment} {name : String}
    (refused : e.validate = .error (.invertedBounds name)) :
    ∃ p ∈ e.parameters, p.name = name ∧ p.bounds.min.compareValue p.bounds.max = .gt := by
  have finds := e.finds_validate
  rw [refused] at finds
  cases finds with
  | first here _ =>
    rcases here with ⟨entry, broken⟩ | ⟨entry, broken⟩
    · cases broken
    · cases broken with
      | boundsOrdered inverted => exact ⟨_, List.mem_of_getElem? entry, rfl, inverted⟩

/-- **Which numbers keep their place**: those whose points are kept, and the powers of ten below the
    range. Nobody else does, since each changes places with some number of that kind. And if the bounds
    of an experiment keep their place, only inverted ones are refused as inverted. -/
theorem isRanked_iff (d : Decimal) (e : Experiment) :
    (d.IsRanked ↔ ∀ x : Decimal, x.IsRanked → ¬AreReversed d x) ∧
    ((∀ p ∈ e.parameters, p.bounds.min.IsRanked ∧ p.bounds.max.IsRanked) →
      ∀ name, e.validate = .error (.invertedBounds name) →
        ∃ p ∈ e.parameters, p.name = name ∧ p.bounds.max.value < p.bounds.min.value) := by
  refine ⟨⟨fun hd x hx => hd.not_areReversed hx, fun never => ?_⟩, ?_⟩
  · by_contra h
    obtain ⟨x, inRange, reversed⟩ := exists_areReversed h
    exact never x inRange.isRanked reversed
  · intro ranked name refused
    obtain ⟨p, mem, same, inverted⟩ := exists_of_invertedBounds refused
    obtain ⟨hmin, hmax⟩ := ranked p mem
    refine ⟨p, mem, same, lt_of_not_ge fun le => ?_⟩
    exact hmin.compareValue_ne hmax le inverted

/-- An experiment with one parameter, between two numbers. -/
def varied (min max : Decimal) : Experiment where
  parameters := [{ name := "x", type := .double, bounds := { min, max } }]

theorem isRanked_iff_sample :
    ((ofFraction false [1] (-100000000000000000000)).IsRanked ∧
      (single 3 (-9223372036854775807)).IsRanked ∧
      ¬AreReversed (ofFraction false [1] (-100000000000000000000))
        (single 3 (-9223372036854775807))) ∧
    (varied (single 3 5) (single 1 5)).validate = .error (.invertedBounds "x") ∧
      (single 1 5).value < (single 3 5).value := by
  obtain ⟨ranks, bounds⟩ := isRanked_iff (ofFraction false [1] (-100000000000000000000))
    (varied (single 3 5) (single 1 5))
  have low : (ofFraction false [1] (-100000000000000000000)).IsRanked :=
    .inr ⟨by decide +kernel, by decide +kernel, by decide +kernel⟩
  have ranked : ∀ {digit : Digit} {n : Int}, IsSigned64 (single digit n).exponentValue →
      IsSigned64 ((single digit n).exponentValue + (single digit n).place) →
      (single digit n).IsRanked :=
    fun exponent point => IsInRange.isRanked ⟨fun _ => exponent, fun _ => point⟩
  have high : (single 3 (-9223372036854775807)).IsRanked :=
    ranked (by decide +kernel) (by decide +kernel)
  have refused : (varied (single 3 5) (single 1 5)).validate = .error (.invertedBounds "x") := by
    decide +kernel
  have within : ∀ p ∈ (varied (single 3 5) (single 1 5)).parameters,
      p.bounds.min.IsRanked ∧ p.bounds.max.IsRanked := by
    intro p mem
    rw [List.mem_singleton.mp mem]
    exact ⟨ranked (by decide +kernel) (by decide +kernel), ranked (by decide +kernel)
      (by decide +kernel)⟩
  obtain ⟨p, mem, -, inverted⟩ := bounds within "x" refused
  rw [List.mem_singleton.mp mem] at inverted
  exact ⟨⟨low, high, ranks.mp low _ high⟩, refused, inverted⟩

/-- **Beyond the range numbers do change places**: two times a power of ten counts as more than a much
    higher power, and is refused as a lower bound below it. -/
theorem not_ordered_beyond_range :
    ((single 2 9223372036854775808).value < (single 1 99999999999999999999).value ∧
      (single 2 9223372036854775808).compareValue (single 1 99999999999999999999) = .gt) ∧
    (varied (single 2 9223372036854775808) (single 1 99999999999999999999)).validate =
      .error (.invertedBounds "x") :=
  ⟨⟨value_single_lt 2 (by decide) (by decide), by decide +kernel⟩, by decide +kernel⟩

end TrialProtocol.Decimal
