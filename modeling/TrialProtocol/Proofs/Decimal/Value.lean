import Mathlib.Algebra.Order.Field.Power
import Mathlib.Tactic.FieldSimp
import TrialProtocol.Decimal.Order
import TrialProtocol.Proofs.Decimal.Written

/-!
# The number a decimal denotes

A decimal denotes a rational number: its digits as one whole number, times a power of ten, with its
sign. It is compared by another form, `0.s` times ten to the power of its point, whose digits `s`
neither begin nor end with a zero. Such digits are ordered like the fractions they make, from the left,
however many they are.

* `compare_eq_compare_fractionOf`: rows of digits without zeros at the end are ordered by value.
* `compareValue_eq_compare_scaled`: decimals are *always* ordered by the scaled form's value, also
  where the point was cut off at the end of its range.
* `compareValue_eq_compare_value`: where it was not, they are ordered by the number they denote.
-/

namespace TrialProtocol

/-! ## 1. Fractions -/

/-- The fraction with the given digits behind the point. -/
def fractionOf (digits : List Digit) : ℚ :=
  valueOf digits / 10 ^ digits.length

theorem fractionOf_nil : fractionOf [] = 0 := by
  simp [fractionOf, valueOf]

theorem fractionOf_append (front back : List Digit) :
    fractionOf (front ++ back) = fractionOf front + fractionOf back / 10 ^ front.length := by
  have hfront : (10 : ℚ) ^ front.length ≠ 0 := by positivity
  have hback : (10 : ℚ) ^ back.length ≠ 0 := by positivity
  rw [fractionOf, fractionOf, fractionOf, valueOf_append, List.length_append, pow_add]
  push_cast
  field_simp

theorem fractionOf_cons (d : Digit) (ds : List Digit) :
    fractionOf (d :: ds) = (d.val + fractionOf ds) / 10 := by
  have hone : fractionOf [d] = d.val / 10 := by simp [fractionOf, valueOf]
  rw [← List.singleton_append, fractionOf_append, hone, List.length_singleton, pow_one]
  ring

theorem fractionOf_nonneg (digits : List Digit) : 0 ≤ fractionOf digits := by
  unfold fractionOf
  positivity

theorem fractionOf_lt_one (digits : List Digit) : fractionOf digits < 1 := by
  rw [fractionOf, div_lt_one (by positivity)]
  exact_mod_cast valueOf_lt digits

theorem fractionOf_replicate_zero (n : Nat) : fractionOf (List.replicate n 0) = 0 := by
  rw [fractionOf, valueOf_replicate_zero, Nat.cast_zero, zero_div]

/-- **Zeros at the end do not count**, … -/
theorem fractionOf_dropLastZeros (digits : List Digit) :
    fractionOf (dropLastZeros digits) = fractionOf digits := by
  obtain ⟨n, hn⟩ := exists_dropLastZeros digits
  conv_rhs => rw [hn, fractionOf_append, fractionOf_replicate_zero, zero_div, add_zero]

/-- … and each in front counts a tenth. -/
theorem fractionOf_dropWhile (digits : List Digit) :
    fractionOf (digits.dropWhile (· == 0)) =
      fractionOf digits * 10 ^ (digits.takeWhile (· == 0)).length := by
  induction digits with
  | nil => simp [fractionOf_nil]
  | cons d ds ih =>
    by_cases zero : d = 0
    · subst zero
      rw [List.dropWhile_cons_of_pos (by rfl), List.takeWhile_cons_of_pos (by rfl), ih,
        fractionOf_cons, List.length_cons, pow_succ, Fin.val_zero, Nat.cast_zero, zero_add]
      ring
    · rw [List.dropWhile_cons_of_neg (by simpa using zero),
        List.takeWhile_cons_of_neg (by simpa using zero), List.length_nil, pow_zero, mul_one]

/-! ## 2. The order of rows of digits -/

/-- A row of digits that does not end with a zero. -/
def IsStripped (digits : List Digit) : Prop :=
  digits.getLast? ≠ some 0

theorem isStripped_dropLastZeros (digits : List Digit) : IsStripped (dropLastZeros digits) := by
  rw [IsStripped, dropLastZeros, List.getLast?_reverse]
  intro h
  have hfirst := List.head?_dropWhile_not (· == 0) digits.reverse
  rw [h] at hfirst
  cases hfirst

theorem IsStripped.tail {d : Digit} {ds : List Digit} (h : IsStripped (d :: ds)) :
    IsStripped ds := by
  cases ds with
  | nil => exact nofun
  | cons e es => rwa [IsStripped, List.getLast?_cons_cons] at h

/-- A first digit that is not zero makes at least a tenth. -/
theorem tenth_le_fractionOf {d : Digit} (h : d ≠ 0) (ds : List Digit) :
    1 / 10 ≤ fractionOf (d :: ds) := by
  have hd : (1 : ℚ) ≤ d.val := by
    exact_mod_cast Nat.one_le_iff_ne_zero.mpr fun zero => h (Fin.ext zero)
  rw [fractionOf_cons]
  linarith [fractionOf_nonneg ds]

theorem IsStripped.fractionOf_pos {digits : List Digit} (h : IsStripped digits)
    (nonempty : digits ≠ []) : 0 < fractionOf digits := by
  induction digits with
  | nil => exact absurd rfl nonempty
  | cons d ds ih =>
    by_cases hds : ds = []
    · subst hds
      have hd : d ≠ 0 := fun zero => h (by rw [zero]; rfl)
      linarith [tenth_le_fractionOf hd []]
    · rw [fractionOf_cons]
      linarith [ih h.tail hds, Nat.cast_nonneg (α := ℚ) d.val]

/-- The first digit that differs decides, whatever follows. -/
theorem fractionOf_lt_of_lt {a b : Digit} (lt : a < b) (as bs : List Digit) :
    fractionOf (a :: as) < fractionOf (b :: bs) := by
  have hdigit : (a.val + 1 : ℚ) ≤ b.val := by exact_mod_cast lt
  rw [fractionOf_cons, fractionOf_cons]
  linarith [fractionOf_lt_one as, fractionOf_nonneg bs]

/-- What is strictly monotone keeps the order, … -/
theorem compare_map {f : ℚ → ℚ} (hf : StrictMono f) (x y : ℚ) :
    compare (f x) (f y) = compare x y :=
  (compare_iff _ _).mpr (hf.compares.mpr ((compare_iff _ _).mp rfl))

/-- … and what is strictly antitone turns it round. -/
theorem compare_map_of_anti {f : ℚ → ℚ} (hf : StrictAnti f) (x y : ℚ) :
    compare (f x) (f y) = compare y x :=
  (compare_iff _ _).mpr (hf.compares.mpr ((compare_iff _ _).mp rfl))

theorem compare_fractionOf_cons (d : Digit) (as bs : List Digit) :
    compare (fractionOf (d :: as)) (fractionOf (d :: bs)) =
      compare (fractionOf as) (fractionOf bs) := by
  rw [fractionOf_cons, fractionOf_cons]
  refine compare_map (f := fun x => (d.val + x) / 10) (fun x y lt => ?_) _ _
  simp only
  linarith

/-- **Rows of digits without zeros at the end are ordered like the fractions they make.** -/
theorem compare_eq_compare_fractionOf {as bs : List Digit} (ha : IsStripped as)
    (hb : IsStripped bs) : compare as bs = compare (fractionOf as) (fractionOf bs) := by
  -- a row that goes on where the other one ends is larger, since it does not go on with zeros alone
  induction as generalizing bs with
  | nil =>
    cases bs with
    | nil => exact (compare_eq_iff_eq.mpr rfl).symm
    | cons b bs =>
      rw [List.compare_nil_cons, fractionOf_nil]
      exact (compare_lt_iff_lt.mpr (hb.fractionOf_pos (List.cons_ne_nil b bs))).symm
  | cons a as ih =>
    cases bs with
    | nil =>
      rw [List.compare_cons_nil, fractionOf_nil]
      exact (compare_gt_iff_gt.mpr (ha.fractionOf_pos (List.cons_ne_nil a as))).symm
    | cons b bs =>
      rw [List.compare_cons_cons]
      rcases lt_trichotomy a b with lt | eq | gt
      · rw [compare_lt_iff_lt.mpr lt]
        exact (compare_lt_iff_lt.mpr (fractionOf_lt_of_lt lt as bs)).symm
      · subst eq
        rw [compare_eq_iff_eq.mpr rfl, Ordering.then, ih ha.tail hb.tail, compare_fractionOf_cons]
      · rw [compare_gt_iff_gt.mpr gt]
        exact (compare_gt_iff_gt.mpr (fractionOf_lt_of_lt gt bs as)).symm

namespace Decimal

/-! ## 3. The number and its scaled form -/

/-- **The number that a decimal denotes.** -/
def value (d : Decimal) : ℚ :=
  (if d.negative then -1 else 1) * (d.coefficient * 10 ^ d.power)

/-- The place of the first digit that is not zero, counted from the point to the left: one for the
    ones, zero for the tenths. -/
def place (d : Decimal) : Int :=
  d.whole.length - d.zerosInFront

/-- The absolute value of the scaled form. -/
def magnitude (d : Decimal) : ℚ :=
  fractionOf d.coreDigits * 10 ^ d.point

/-- The number that the scaled form denotes. -/
def scaled (d : Decimal) : ℚ :=
  d.sign * d.magnitude

theorem isStripped_coreDigits (d : Decimal) : IsStripped d.coreDigits :=
  isStripped_dropLastZeros _

theorem fractionOf_coreDigits (d : Decimal) :
    fractionOf d.coreDigits = fractionOf d.allDigits * 10 ^ d.zerosInFront := by
  rw [coreDigits, fractionOf_dropLastZeros]
  exact fractionOf_dropWhile d.allDigits

/-- **The digits times their power of ten are a fraction times another.** -/
theorem coefficient_mul_eq (d : Decimal) :
    (d.coefficient * 10 ^ d.power : ℚ) =
      fractionOf d.coreDigits * 10 ^ (d.exponentValue + d.place) := by
  have hten : (10 : ℚ) ≠ 0 := by norm_num
  have hdigits : (d.coefficient : ℚ) = fractionOf d.allDigits * 10 ^ d.allDigits.length := by
    rw [fractionOf, coefficient]
    field_simp
  have hlength : d.allDigits.length = d.whole.length + d.fraction.length :=
    List.length_append
  have hpower : (d.allDigits.length : Int) + d.power =
      d.zerosInFront + (d.exponentValue + d.place) := by
    rw [hlength, power, place]
    push_cast
    ring
  calc (d.coefficient * 10 ^ d.power : ℚ)
      = fractionOf d.allDigits * 10 ^ ((d.allDigits.length : Int) + d.power) := by
        rw [hdigits, zpow_add₀ hten, zpow_natCast, mul_assoc]
    _ = fractionOf d.coreDigits * 10 ^ (d.exponentValue + d.place) := by
        rw [hpower, zpow_add₀ hten, zpow_natCast, fractionOf_coreDigits, mul_assoc]

theorem sign_eq_zero {d : Decimal} (h : d.coreDigits = []) : d.sign = 0 :=
  if_pos (List.isEmpty_iff.mpr h)

theorem sign_eq {d : Decimal} (h : d.coreDigits ≠ []) :
    d.sign = if d.negative then -1 else 1 :=
  if_neg (mt List.isEmpty_iff.mp h)

theorem value_eq (d : Decimal) :
    d.value = d.sign * (fractionOf d.coreDigits * 10 ^ (d.exponentValue + d.place)) := by
  rw [value, coefficient_mul_eq]
  by_cases h : d.coreDigits = []
  · rw [h, fractionOf_nil, zero_mul, mul_zero, mul_zero]
  · rw [sign_eq h]
    push_cast
    rfl

/-- A number is zero if no digit is left in the scaled form. -/
theorem value_eq_zero_iff {d : Decimal} : d.value = 0 ↔ d.coreDigits = [] := by
  constructor
  · intro zero
    by_contra h
    have hsign : (d.sign : ℚ) ≠ 0 := by
      rw [sign_eq h]
      split <;> decide
    have hpower : (10 : ℚ) ^ (d.exponentValue + d.place) ≠ 0 := by positivity
    have hdigits := (d.isStripped_coreDigits.fractionOf_pos h).ne'
    exact mul_ne_zero hsign (mul_ne_zero hdigits hpower) (d.value_eq ▸ zero)
  · intro h
    rw [value_eq, sign_eq_zero h, Int.cast_zero, zero_mul]

/-! ## 4. The order of scaled forms -/

section Nonzero

variable {d : Decimal} (nonzero : d.coreDigits ≠ [])

include nonzero

theorem magnitude_pos : 0 < d.magnitude :=
  mul_pos (d.isStripped_coreDigits.fractionOf_pos nonzero) (by positivity)

/-- The digits of the scaled form make at least a tenth, since the first is not zero. -/
theorem tenth_le_fractionOf_coreDigits : 1 / 10 ≤ fractionOf d.coreDigits := by
  have hfirst := List.head?_dropWhile_not (· == 0) d.allDigits
  rw [coreDigits, fractionOf_dropLastZeros]
  cases hdigits : d.allDigits.dropWhile (· == 0) with
  | nil => exact absurd (by rw [coreDigits, hdigits]; rfl) nonzero
  | cons e es =>
    rw [hdigits, List.head?_cons] at hfirst
    exact tenth_le_fractionOf (by simpa using hfirst) es

end Nonzero

/-- **Of two scaled forms the one with the larger point is larger.** -/
theorem magnitude_lt {a b : Decimal} (hb : b.coreDigits ≠ []) (lt : a.point < b.point) :
    a.magnitude < b.magnitude := by
  have hpower : (10 : ℚ) ^ a.point ≤ 10 ^ (b.point - 1) :=
    zpow_le_zpow_right₀ (by norm_num) (by omega)
  calc a.magnitude < 1 * 10 ^ a.point :=
        mul_lt_mul_of_pos_right (fractionOf_lt_one _) (by positivity)
    _ ≤ 1 * 10 ^ (b.point - 1) := mul_le_mul_of_nonneg_left hpower zero_le_one
    _ = 1 / 10 * 10 ^ b.point := by
        rw [zpow_sub_one₀ (by norm_num)]
        ring
    _ ≤ b.magnitude :=
        mul_le_mul_of_nonneg_right (tenth_le_fractionOf_coreDigits hb) (by positivity)

theorem compareMagnitude_eq {a b : Decimal} (ha : a.coreDigits ≠ []) (hb : b.coreDigits ≠ []) :
    compareMagnitude a b = compare a.magnitude b.magnitude := by
  rw [compareMagnitude]
  rcases lt_trichotomy a.point b.point with lt | eq | gt
  · rw [compare_lt_iff_lt.mpr lt]
    exact (compare_lt_iff_lt.mpr (magnitude_lt hb lt)).symm
  · have hpower : (0 : ℚ) < 10 ^ b.point := by positivity
    rw [compare_eq_iff_eq.mpr eq, Ordering.then,
      compare_eq_compare_fractionOf a.isStripped_coreDigits b.isStripped_coreDigits,
      magnitude, magnitude, eq]
    exact (compare_map (strictMono_mul_right_of_pos hpower) _ _).symm
  · rw [compare_gt_iff_gt.mpr gt]
    exact (compare_gt_iff_gt.mpr (magnitude_lt ha gt)).symm

/-- The sign of a decimal is the sign of its scaled form. -/
theorem sign_cases (d : Decimal) :
    (d.sign = -1 ∧ d.scaled < 0) ∨ (d.sign = 0 ∧ d.scaled = 0) ∨
      (d.sign = 1 ∧ 0 < d.scaled) := by
  by_cases h : d.coreDigits = []
  · exact .inr (.inl ⟨sign_eq_zero h, by rw [scaled, sign_eq_zero h, Int.cast_zero, zero_mul]⟩)
  · have hpos := magnitude_pos h
    have hsign := sign_eq h
    cases hn : d.negative with
    | true =>
      rw [hn, if_pos rfl] at hsign
      refine .inl ⟨hsign, ?_⟩
      rw [scaled, hsign, Int.cast_neg, Int.cast_one]
      linarith
    | false =>
      rw [hn, if_neg Bool.false_ne_true] at hsign
      refine .inr (.inr ⟨hsign, ?_⟩)
      rwa [scaled, hsign, Int.cast_one, one_mul]

theorem scaled_lt_of_sign_lt {a b : Decimal} (lt : a.sign < b.sign) : a.scaled < b.scaled := by
  rcases a.sign_cases with ⟨ha, ha'⟩ | ⟨ha, ha'⟩ | ⟨ha, ha'⟩ <;>
    rcases b.sign_cases with ⟨hb, hb'⟩ | ⟨hb, hb'⟩ | ⟨hb, hb'⟩ <;>
      first | omega | linarith

/-- Among negative numbers the order of the absolute values is turned round. -/
theorem compareValue_of_sign_eq {a b : Decimal} (eq : a.sign = b.sign) :
    a.compareValue b = compare a.scaled b.scaled := by
  rw [compareValue, compare_eq_iff_eq.mpr eq]
  by_cases zero : a.sign = 0
  · have hscaled : a.scaled = b.scaled := by
      rw [scaled, scaled, ← eq, zero, Int.cast_zero, zero_mul, zero_mul]
    exact (if_pos zero).trans (compare_eq_iff_eq.mpr hscaled).symm
  · have ha : a.coreDigits ≠ [] := mt sign_eq_zero zero
    have hb : b.coreDigits ≠ [] := mt sign_eq_zero (eq ▸ zero)
    simp only [if_neg zero, scaled, ← eq, compareMagnitude_eq ha hb, compareMagnitude_eq hb ha]
    rcases lt_or_gt_of_ne zero with neg | pos
    · rw [if_pos neg]
      exact (compare_map_of_anti (strictAnti_mul_left (Int.cast_lt_zero.mpr neg)) _ _).symm
    · rw [if_neg pos.not_gt]
      exact (compare_map (strictMono_mul_left_of_pos (Int.cast_pos.mpr pos)) _ _).symm

/-- **Decimals are ordered by the value of their scaled form**, whatever their exponents are. -/
theorem compareValue_eq_compare_scaled (a b : Decimal) :
    a.compareValue b = compare a.scaled b.scaled := by
  rcases lt_trichotomy a.sign b.sign with lt | eq | gt
  · rw [compareValue, compare_lt_iff_lt.mpr lt]
    exact (compare_lt_iff_lt.mpr (scaled_lt_of_sign_lt lt)).symm
  · exact compareValue_of_sign_eq eq
  · rw [compareValue, compare_gt_iff_gt.mpr gt]
    exact (compare_gt_iff_gt.mpr (scaled_lt_of_sign_lt gt)).symm

/-! ## 5. The order of the numbers themselves -/

/-- A number that fits 64 bits with a sign. -/
def IsSigned64 (n : Int) : Prop :=
  -0x8000000000000000 ≤ n ∧ n ≤ 0x7fffffffffffffff

instance (n : Int) : Decidable (IsSigned64 n) :=
  inferInstanceAs (Decidable (_ ∧ _))

theorem clamp64_eq {n : Int} (h : IsSigned64 n) : clamp64 n = n := by
  obtain ⟨hlow, hhigh⟩ := h
  rw [clamp64]
  omega

/-- **A decimal within the range of exact comparison**: unless it is zero, its exponent fits 64 bits
    with a sign, and so does the exponent together with the place of the first digit. -/
structure IsInRange (d : Decimal) : Prop where
  exponent : d.value ≠ 0 → IsSigned64 d.exponentValue
  point : d.value ≠ 0 → IsSigned64 (d.exponentValue + d.place)

/-- **A decimal whose point is kept**: it was not cut off, or the number is zero and has none. -/
def IsKept (d : Decimal) : Prop :=
  d.value = 0 ∨ d.point = d.exponentValue + d.place

/-- A number whose point is kept is the one that its scaled form denotes. -/
theorem IsKept.scaled_eq {d : Decimal} (h : d.IsKept) : d.scaled = d.value := by
  rcases h with zero | point
  · rw [zero, scaled, sign_eq_zero (value_eq_zero_iff.mp zero), Int.cast_zero, zero_mul]
  · rw [value_eq, scaled, magnitude, point]

/-- Nothing is cut off within the range. -/
theorem IsInRange.isKept {d : Decimal} (h : d.IsInRange) : d.IsKept := by
  by_cases zero : d.value = 0
  · exact .inl zero
  · have hplace : ((d.whole.length : Int) - d.zerosInFront) = d.place := rfl
    refine .inr ?_
    rw [Decimal.point, clamp64_eq (h.exponent zero), hplace, add_comm, clamp64_eq (h.point zero)]

theorem IsInRange.scaled_eq {d : Decimal} (h : d.IsInRange) : d.scaled = d.value :=
  h.isKept.scaled_eq

/-- **Within the range decimals are ordered by the numbers they denote**, of however many digits. In
    particular they are equal just if they denote the same number, however it is written. -/
theorem compareValue_eq_compare_value {a b : Decimal} (ha : a.IsInRange) (hb : b.IsInRange) :
    a.compareValue b = compare a.value b.value ∧
      (a.compareValue b = .eq ↔ a.value = b.value) := by
  have horder : a.compareValue b = compare a.value b.value := by
    rw [compareValue_eq_compare_scaled, ha.scaled_eq, hb.scaled_eq]
  exact ⟨horder, by rw [horder, compare_eq_iff_eq]⟩

/-- A number whose exponent is the largest of the range. -/
def atEnd : Decimal :=
  ofDigits true [0] [0, 1, 2, 5, 0] (some (Exponent.ofInt 0x7fffffffffffffff))

/-- The same number with its point elsewhere. -/
def shifted : Decimal :=
  ofDigits true [1, 2] [5] (some (Exponent.ofInt 0x7ffffffffffffffc))

/-- A zero with an exponent far beyond the range. -/
def distantZero : Decimal :=
  ofDigits true [0] [0] (some (Exponent.ofInt (10 ^ 20)))

theorem compareValue_eq_compare_value_sample :
    (atEnd.IsInRange ∧ shifted.IsInRange ∧ distantZero.IsInRange) ∧
      atEnd ≠ shifted ∧ atEnd.value = shifted.value ∧
      compare shifted.value distantZero.value = .lt := by
  have hend : atEnd.IsInRange := ⟨fun _ => by decide +kernel, fun _ => by decide +kernel⟩
  have hshifted : shifted.IsInRange := ⟨fun _ => by decide +kernel, fun _ => by decide +kernel⟩
  have zero : distantZero.value = 0 := value_eq_zero_iff.mpr (by decide +kernel)
  have hzero : distantZero.IsInRange := ⟨fun h => absurd zero h, fun h => absurd zero h⟩
  obtain ⟨-, hsame⟩ := compareValue_eq_compare_value hend hshifted
  obtain ⟨hbelow, -⟩ := compareValue_eq_compare_value hshifted hzero
  exact ⟨⟨hend, hshifted, hzero⟩, by decide +kernel, hsame.mp (by decide +kernel),
    hbelow.symm.trans (by decide +kernel)⟩

end Decimal

end TrialProtocol
