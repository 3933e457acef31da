import Mathlib.Tactic.FieldSimp
import TrialProtocol.Decimal.Rounding
import TrialProtocol.Proofs.Number.Arithmetic

/-!
# Words times powers of ten

A word is multiplied with a power of ten from a table, or divided by one, or by two where one is not
enough. Each step is rounded by itself, and the powers in the table are rounded too, from the 23rd on.

* `comesNear_of_nonneg`, `comesNear_of_neg`, `comesNear_of_lt`: what comes out is at most three doubles
  away from what the exact product rounds to.
* `scaleByPower_of_brief`: for few digits and a small power of ten it is just that.
-/

namespace TrialProtocol.Decimal

open Double (IsNearest Near unitsOfPower unitsOf one)

/-! ## 1. Powers of ten -/

theorem near_powerOfTen {k : Nat} (le : k ≤ 308) :
    Near 1 (unitsOfPower k) (powerOfTen k).units := by
  rw [Double.unitsOfPower_natCast]
  refine Double.near_ofNat ?_ (Nat.pow_pos (by decide))
  rw [← Double.unitsOfPower_natCast]
  exact Double.unitsOfPower_mono (by exact_mod_cast le)

/-- The first powers of ten are doubles. -/
theorem units_powerOfTen {k : Nat} (le : k ≤ 22) :
    ((powerOfTen k).units : ℚ) = unitsOfPower k := by
  have h : ∀ k ≤ 22, (powerOfTen k).units = Nat.pow 10 k * one := by decide +kernel
  rw [Double.unitsOfPower_natCast, h k le, Nat.cast_mul]

theorem units_powerOfTen_pos {k : Nat} (le : k ≤ 308) : 0 < (powerOfTen k).units :=
  Nat.cast_pos.mp ((near_powerOfTen le).pos (Double.unitsOfPower_pos k))

theorem one_cast_pos : (0 : ℚ) < one :=
  Nat.cast_pos.mpr Double.one_pos

theorem unitsOfPower_add_natCast (p : Int) (k : Nat) :
    unitsOfPower (p + k) = unitsOfPower p * unitsOfPower k / one := by
  have hone := one_cast_pos.ne'
  rw [Double.unitsOfPower_add, unitsOfPower, unitsOfPower, zpow_natCast]
  generalize (one : ℚ) = units at *
  field_simp

theorem unitsOfPower_sub_natCast (p : Int) (k : Nat) :
    unitsOfPower (p - k) = unitsOfPower p * one / unitsOfPower k := by
  have hsplit := unitsOfPower_add_natCast (p - k) k
  have hone := one_cast_pos.ne'
  have hk := (Double.unitsOfPower_pos k).ne'
  rw [sub_add_cancel] at hsplit
  rw [hsplit]
  generalize (one : ℚ) = units at *
  field_simp

/-- A word is no larger than the largest power of ten. -/
theorem word_le {c : Nat} (few : c ≤ 10 ^ 20) : (c * one : ℚ) ≤ unitsOfPower 308 :=
  calc (c * one : ℚ) ≤ ((Nat.pow 10 20 : Nat) : ℚ) * one :=
        mul_le_mul_of_nonneg_right (Nat.cast_le.mpr few) one_cast_pos.le
    _ = unitsOfPower (20 : Nat) := (Double.unitsOfPower_natCast 20).symm
    _ ≤ unitsOfPower 308 := Double.unitsOfPower_mono (by decide)

/-- A word as a double. -/
theorem near_word {c : Nat} (pos : 0 < c) (few : c ≤ 10 ^ 17) :
    Near 1 (c * unitsOfPower 0) (Double.ofNat c).units := by
  rw [unitsOfPower, zpow_zero, one_mul]
  exact Double.near_ofNat (word_le (few.trans (by decide))) pos

section Step

variable {c j k : Nat} {p : Int} {w : ℚ} (h : Near j (c * unitsOfPower p) w) (nonneg : 0 ≤ w)

include h nonneg

/-- A product with a power of ten has its error once more. -/
theorem near_mul_powerOfTen (le : k ≤ 308) :
    Near (j + 1) (c * unitsOfPower (p + k)) (w * (powerOfTen k).units / one) := by
  have hv : 0 ≤ c * unitsOfPower p :=
    mul_nonneg (Nat.cast_nonneg c) (Double.unitsOfPower_pos p).le
  have hproduct := (h.mul (near_powerOfTen le) hv nonneg (Double.unitsOfPower_pos k).le
    (Nat.cast_nonneg _)).div_right one_cast_pos.le
  rwa [mul_assoc, mul_div_assoc, ← unitsOfPower_add_natCast] at hproduct

/-- So has a quotient. -/
theorem near_div_powerOfTen (le : k ≤ 308) :
    Near (j + 1) (c * unitsOfPower (p - k)) (w * one / (powerOfTen k).units) := by
  have hv : 0 ≤ c * unitsOfPower p :=
    mul_nonneg (Nat.cast_nonneg c) (Double.unitsOfPower_pos p).le
  have hquotient := (h.mul_right one_cast_pos.le).div (near_powerOfTen le)
    (mul_nonneg hv one_cast_pos.le) (mul_nonneg nonneg one_cast_pos.le)
    (Double.unitsOfPower_pos k) (Nat.cast_pos.mpr (units_powerOfTen_pos le))
  rwa [mul_assoc, mul_div_assoc, ← unitsOfPower_sub_natCast] at hquotient

omit nonneg in
/-- The first powers of ten have no error. -/
theorem near_div_of_le (le : k ≤ 22) :
    Near j (c * unitsOfPower (p - k)) (w * one / (powerOfTen k).units) := by
  have hquotient := (h.mul_right one_cast_pos.le).div_right (Double.unitsOfPower_pos k).le
  rw [units_powerOfTen le]
  rwa [mul_assoc, mul_div_assoc, ← unitsOfPower_sub_natCast] at hquotient

end Step

/-- No power of ten in the table is less than one. -/
theorem one_le_powerOfTen {k : Nat} (le : k ≤ 308) : one ≤ (powerOfTen k).units := by
  have hone := Double.isNearest_ofNat (n := 1) (word_le (by decide))
  have hpower := Double.isNearest_ofNat (n := Nat.pow 10 k) (by
    rw [← Double.unitsOfPower_natCast]
    exact Double.unitsOfPower_mono (by exact_mod_cast le))
  have hle : ((1 : Nat) * one : ℚ) ≤ (Nat.pow 10 k : Nat) * one :=
    mul_le_mul_of_nonneg_right (Nat.cast_le.mpr (Nat.pow_pos (by decide))) one_cast_pos.le
  calc one = (Double.ofNat 1).units := by
        rw [Double.units_ofNat (word_le (by decide)) (by decide), Nat.one_mul]
    _ ≤ (powerOfTen k).units := by
        rw [Double.units_eq, Double.units_eq]
        exact Double.strictMono_unitsOf.monotone (hone.1.mono hpower.1 hle)

/-- A quotient by one of them is no larger than the number, and rounded as it should be. -/
theorem isNearest_div_powerOfTen {x : Double} (finite : x.isFinite = true) {k : Nat}
    (le : k ≤ 308) : IsNearest (x.units * one / (powerOfTen k).units)
      (x.div (powerOfTen k)).magnitude ∧ (x.div (powerOfTen k)).isFinite = true := by
  have hpos := units_powerOfTen_pos le
  have hlt : x.magnitude < Double.infiniteMagnitude := of_decide_eq_true finite
  have hle : ((x.units * one : Nat) : ℚ) / (powerOfTen k).units ≤ unitsOf x.magnitude := by
    rw [div_le_iff₀ (Nat.cast_pos.mpr hpos), ← Double.units_eq, ← Nat.cast_mul, Nat.cast_le]
    exact Nat.mul_le_mul_left _ (one_le_powerOfTen le)
  obtain ⟨hnearest, hbound⟩ := Double.isNearest_nearestMagnitude hpos hle hlt
  rw [Nat.cast_mul] at hnearest
  rw [Double.isFinite, Double.div, Double.magnitude_ofMagnitude (Double.nearestMagnitude_lt _ _)]
  exact ⟨hnearest, decide_eq_true (hbound.trans_lt hlt)⟩

/-- Half the smallest number with all bits is less than the smallest power of ten in the table. -/
theorem lt_unitsOfPower : (2 * 10 ^ 15 : ℚ) < unitsOfPower (-308) := by
  have hlarge : Double.reaches (2 * 10 ^ 15) (-308) = false := by decide +kernel
  refine not_le.mp fun le => ?_
  rw [(Double.reaches_iff _ _).mpr (by norm_num at le ⊢; exact le)] at hlarge
  cases hlarge

/-- Below the table, a word of one or two makes a double that has far fewer bits. -/
theorem unitsOfPower_lt : unitsOfPower (-309) < 2 ^ 48 := by
  have hsmall : unitsOfPower (-309) ≤ ((2 ^ 48 - 1 : Nat) : ℚ) :=
    (Double.reaches_iff _ _).mp (by decide +kernel)
  norm_num at hsmall ⊢
  linarith

/-! ## 2. What comes out -/

/-- **A word times a power of ten comes near a magnitude**: it is finite, without a sign, and at most
    three magnitudes away. -/
def ComesNear (c : Nat) (q : Int) (m : Nat) : Prop :=
  ∃ y, scaleByPower (Double.ofNat c) q = some y ∧
    y.isNegative = false ∧ y.magnitude ≤ m + 3 ∧ m ≤ y.magnitude + 3

section Once

variable {c : Nat} {q : Int} {m : Nat} (h : IsNearest (c * unitsOfPower q) m) (pos : 0 < c)
  (few : c ≤ 10 ^ 17) (lt : m + 3 < Double.infiniteMagnitude)

include h pos few lt

/-- By one multiplication. -/
theorem comesNear_of_nonneg (nonneg : 0 ≤ q) (high : q ≤ 308) : ComesNear c q m := by
  obtain ⟨k, rfl⟩ : ∃ n : Nat, q = 0 + (n : Int) := ⟨q.toNat, by omega⟩
  have hproduct := near_mul_powerOfTen (near_word pos few) (Nat.cast_nonneg _)
    (show k ≤ 308 by omega)
  obtain ⟨-, hle, hge⟩ := Double.mul_of_near h (by decide) (by omega) hproduct
  refine ⟨(Double.ofNat c).mul (powerOfTen k), ?_, ?_, by omega, by omega⟩
  · rw [scaleByPower, if_neg (by omega), if_pos nonneg, zero_add, Int.toNat_natCast]
    exact if_pos (decide_eq_true (by omega))
  · rw [Double.isNegative_mul, powerOfTen, Double.isNegative_ofNat, Double.isNegative_ofNat]
    rfl

/-- By one division. -/
theorem comesNear_of_neg (neg : q < 0) (low : -308 ≤ q) : ComesNear c q m := by
  obtain ⟨k, rfl⟩ : ∃ n : Nat, q = 0 - (n : Int) := ⟨(-q).toNat, by omega⟩
  have hquotient := near_div_powerOfTen (near_word pos few) (Nat.cast_nonneg _)
    (show k ≤ 308 by omega)
  obtain ⟨-, hle, hge⟩ := Double.div_of_near h (by decide) (by omega)
    (units_powerOfTen_pos (by omega)) hquotient
  refine ⟨(Double.ofNat c).div (powerOfTen k), ?_, ?_, by omega, by omega⟩
  · rw [scaleByPower, if_neg (by omega), if_neg (by omega), if_pos low]
    congr 3
    omega
  · rw [Double.isNegative_div, powerOfTen, Double.isNegative_ofNat, Double.isNegative_ofNat]
    rfl

end Once

/-! ## 3. Two divisions -/

section Twice

variable {c k : Nat} (pos : 0 < c) (few : c ≤ 10 ^ 17)

/-- The first quotient before it is rounded. -/
def firstQuotient (c : Nat) : ℚ :=
  (Double.ofNat c).units * one / (powerOfTen 308).units

include pos few

theorem near_firstQuotient : Near 2 (c * unitsOfPower (-308)) (firstQuotient c) :=
  near_div_powerOfTen (near_word pos few) (Nat.cast_nonneg _) le_rfl

theorem scaleByPower_twice (low : k ≤ 32) (kpos : 0 < k) :
    scaleByPower (Double.ofNat c) (-308 - k) =
      some (((Double.ofNat c).div (powerOfTen 308)).div (powerOfTen k)) := by
  -- a word is not zero, so the loop goes on to the second division
  have hword : (Double.ofNat c).magnitude ≠ 0 := by
    intro zero
    have hunits := (near_word pos few).pos (mul_pos (Nat.cast_pos.mpr pos)
      (Double.unitsOfPower_pos 0))
    rw [Double.units_eq, zero, (Double.parts_of_lt (by decide)).2] at hunits
    exact lt_irrefl _ hunits
  rw [scaleByPower, if_neg (by omega), if_neg (by omega), if_neg (by omega), if_neg hword,
    scaleByPower, if_neg (by omega), if_neg (by omega), if_pos (by omega)]
  congr 3
  omega

/-- The first quotient is not much less than the word times 2·10¹⁵. -/
theorem le_firstQuotient : (c : ℚ) * (2 * 10 ^ 15) * (9 / 10) ≤ firstQuotient c := by
  have hfactor : (9 / 10 : ℚ) ≤ (1 - Double.roundoff) ^ 2 := by norm_num [Double.roundoff]
  have hword : (c : ℚ) * (2 * 10 ^ 15) ≤ c * unitsOfPower (-308) :=
    mul_le_mul_of_nonneg_left lt_unitsOfPower.le (Nat.cast_nonneg c)
  calc (c : ℚ) * (2 * 10 ^ 15) * (9 / 10) = 9 / 10 * (c * (2 * 10 ^ 15)) := by ring
    _ ≤ (1 - Double.roundoff) ^ 2 * (c * unitsOfPower (-308)) :=
      mul_le_mul hfactor hword (by positivity) (Double.pow_factor_pos 2).le
    _ ≤ firstQuotient c := (near_firstQuotient pos few).below

omit pos in
/-- Where the result is not among the smallest doubles, the word is not among the smallest either, and
    the second power of ten is exact. -/
theorem word_of_large (kpos : 0 < k) (large : 2 ^ 49 ≤ c * unitsOfPower (-308 - k)) :
    3 ≤ c ∧ k ≤ 22 := by
  have hsmall := unitsOfPower_lt
  constructor
  · by_contra! tiny
    have hword : (c : ℚ) ≤ 2 := by exact_mod_cast Nat.le_of_lt_succ tiny
    have hpart : unitsOfPower (-308 - k) ≤ unitsOfPower (-309) :=
      Double.unitsOfPower_mono (by omega)
    have hvalue := mul_le_mul hword hpart (Double.unitsOfPower_pos _).le zero_le_two
    norm_num at large hsmall
    linarith
  · by_contra! many
    have hword : (c : ℚ) ≤ 10 ^ 17 := by exact_mod_cast few
    have hpart : unitsOfPower (-308 - k) ≤ unitsOfPower (-331) :=
      Double.unitsOfPower_mono (by omega)
    have hshift : 10 ^ 17 * unitsOfPower (-331) = unitsOfPower (-314) :=
      (Double.unitsOfPower_add (-331) 17).symm
    have hvalue := mul_le_mul hword hpart (Double.unitsOfPower_pos _).le (by norm_num)
    have hmono : unitsOfPower (-314) ≤ unitsOfPower (-309) := Double.unitsOfPower_mono (by decide)
    rw [hshift] at hvalue
    linarith

variable {m : Nat} (h : IsNearest (c * unitsOfPower (-308 - k)) m)
  (lt : m + 3 < Double.infiniteMagnitude) {x : Double} (first : IsNearest (firstQuotient c) x.magnitude)

include h lt first

theorem near_of_large (kpos : 0 < k) (large : 2 ^ 49 ≤ c * unitsOfPower (-308 - k)) :
    (x.div (powerOfTen k)).magnitude ≤ m + 3 ∧ m ≤ (x.div (powerOfTen k)).magnitude + 3 := by
  obtain ⟨hc, hk⟩ := word_of_large few kpos large
  have hbits : (Double.binade : ℚ) ≤ firstQuotient c := by
    have hword : (3 : ℚ) ≤ c := by exact_mod_cast hc
    have hvalue := le_firstQuotient pos few
    norm_num [Double.binade]
    linarith
  have hrounded : Near 1 (firstQuotient c) x.units := by
    rw [Double.units_eq]
    exact first.near hbits
  have hsecond := near_div_of_le ((near_firstQuotient pos few).trans hrounded) hk
  exact (Double.div_of_near h (by decide) lt (units_powerOfTen_pos (by omega)) hsecond).2

omit lt in
/-- Otherwise doubles are so far apart that the errors do not matter. -/
theorem near_of_small (low : k ≤ 32) (small : c * unitsOfPower (-308 - k) < 2 ^ 49) :
    (x.div (powerOfTen k)).magnitude ≤ m + 3 ∧ m ≤ (x.div (powerOfTen k)).magnitude + 3 := by
  have hbits : (Double.binade : ℚ) ≤ 4 * firstQuotient c := by
    have hword : (1 : ℚ) ≤ c := by exact_mod_cast pos
    have hvalue := le_firstQuotient pos few
    norm_num [Double.binade]
    linarith
  have hm : m ≤ 2 ^ 49 := by
    have hunits : unitsOf (2 ^ 49) = 2 ^ 49 := (Double.parts_of_lt (by decide)).2
    exact h.mono (Double.isNearest_unitsOf (2 ^ 49)) (by rw [hunits]; exact_mod_cast small.le)
  -- up to two bits are missing here, which makes one rounding count as five
  have hrounded : Near 5 (firstQuotient c) x.units := by
    rw [Double.units_eq]
    exact first.near_of_subnormal hbits
  have hfinite : 2 ^ 50 < Double.infiniteMagnitude := by decide
  have hsecond := near_div_powerOfTen ((near_firstQuotient pos few).trans hrounded)
    (Nat.cast_nonneg _) (show k ≤ 308 by omega)
  obtain ⟨hnearest, -, -⟩ := Double.div_of_near h (by decide) (by omega)
    (units_powerOfTen_pos (by omega)) hsecond
  have hle := h.le_succ_of_small hnearest (by omega) hsecond
  have hge := hnearest.le_succ_of_small h (by omega) hsecond.symm
  omega

end Twice

/-- By two divisions. -/
theorem comesNear_of_lt {c : Nat} {q : Int} {m : Nat} (h : IsNearest (c * unitsOfPower q) m)
    (pos : 0 < c) (few : c ≤ 10 ^ 17) (lt : m + 3 < Double.infiniteMagnitude) (below : q < -308)
    (low : -340 ≤ q) : ComesNear c q m := by
  obtain ⟨k, rfl⟩ : ∃ n : Nat, q = -308 - (n : Int) := ⟨(-308 - q).toNat, by omega⟩
  have first : IsNearest (firstQuotient c) ((Double.ofNat c).div (powerOfTen 308)).magnitude :=
    (isNearest_div_powerOfTen (decide_eq_true (Double.isNearest_ofNat (word_le (few.trans (by decide)))).2)
      (le_refl 308)).1
  have hsign : (((Double.ofNat c).div (powerOfTen 308)).div (powerOfTen k)).isNegative = false := by
    simp only [Double.isNegative_div, powerOfTen, Double.isNegative_ofNat]
    rfl
  refine ⟨_, scaleByPower_twice pos few (by omega) (by omega), hsign, ?_⟩
  rcases le_or_gt (2 ^ 49) (c * unitsOfPower (-308 - k)) with large | small
  · exact near_of_large pos few h lt first (by omega) large
  · exact near_of_small pos few h first (by omega) small

/-! ## 4. Without an error -/

/-- **Few digits and a small power of ten are no error at all.** -/
theorem scaleByPower_of_brief {c : Nat} {q : Int} {m : Nat} (h : IsNearest (c * unitsOfPower q) m)
    (lt : m < Double.infiniteMagnitude) (few : c ≤ 2 * Double.binade) (small : q.natAbs ≤ 22) :
    scaleByPower (Double.ofNat c) q = some (Double.ofMagnitude false m) := by
  have hword : ((Double.ofNat c).units : ℚ) = c * unitsOfPower 0 := by
    rw [Double.units_ofNat (word_le (few.trans (by decide))) few, Nat.cast_mul, unitsOfPower,
      zpow_zero, one_mul]
  rcases le_or_gt 0 q with nonneg | neg
  · obtain ⟨k, rfl⟩ : ∃ n : Nat, q = 0 + (n : Int) := ⟨q.toNat, by omega⟩
    have hmagnitude : ((Double.ofNat c).mul (powerOfTen k)) = Double.ofMagnitude false m := by
      rw [Double.mul, powerOfTen, Double.isNegative_ofNat, Double.isNegative_ofNat, ← powerOfTen,
        Double.nearestMagnitude_eq Double.one_pos _ lt.le]
      · rfl
      · rwa [Nat.cast_mul, hword, units_powerOfTen (by omega), mul_assoc, mul_div_assoc,
          ← unitsOfPower_add_natCast]
    have hfinite : (Double.ofMagnitude false m).isFinite = true := by
      rw [Double.isFinite, Double.magnitude_ofMagnitude (lt.trans (by decide))]
      exact decide_eq_true lt
    rw [scaleByPower, if_neg (by omega), if_pos nonneg, zero_add, Int.toNat_natCast]
    simp only [hmagnitude]
    rw [if_pos hfinite]
  · obtain ⟨k, rfl⟩ : ∃ n : Nat, q = 0 - (n : Int) := ⟨(-q).toNat, by omega⟩
    have hmagnitude : ((Double.ofNat c).div (powerOfTen k)) = Double.ofMagnitude false m := by
      rw [Double.div, powerOfTen, Double.isNegative_ofNat, Double.isNegative_ofNat, ← powerOfTen,
        Double.nearestMagnitude_eq (units_powerOfTen_pos (by omega)) _ lt.le]
      · rfl
      · rwa [Nat.cast_mul, hword, units_powerOfTen (by omega), mul_assoc, mul_div_assoc,
          ← unitsOfPower_sub_natCast]
    rw [scaleByPower, if_neg (by omega), if_neg (by omega), if_pos (by omega), ← hmagnitude]
    congr 3
    omega

end TrialProtocol.Decimal
