import Mathlib.Algebra.Order.Field.Rat
import Mathlib.Order.Monotone.Basic
import Mathlib.Tactic.Linarith
import Mathlib.Tactic.Positivity
import Mathlib.Tactic.Ring
import TrialProtocol.Number.Double

/-!
# Rounding to the nearest double

What `Double.nearestMagnitude` computes, said without computing. Magnitudes number the doubles of one
sign in their order. Between two neighbours lies a midpoint, and a number rounds to a magnitude if it
lies between the midpoints on both sides of it; on a midpoint itself the even neighbour wins.

* `IsNearest`: that a number rounds to a magnitude. `IsNearest.unique`: to one only.
* `nearestMagnitude_eq`: rounding finds that magnitude.
* `midpoint_lt`: from one midpoint to the next there is at least a factor, so that a small relative
  error moves a number across few of them. That is how roundings one after another are counted.
-/

namespace TrialProtocol.Double

/-! ## 1. Magnitudes and their values -/

/-- The value of a magnitude in units. -/
def unitsOf (m : Nat) : Nat :=
  significand m * 2 ^ scale m

/-- The magnitudes below the first power of two count units. -/
theorem parts_of_lt {m : Nat} (h : m < binade) : scale m = 0 ∧ unitsOf m = m := by
  have hdiv : m / binade = 0 := Nat.div_eq_of_lt h
  simp [unitsOf, significand, scale, hdiv]

/-- The others have a scale, and a significand from one power of two to the next. -/
theorem parts_of_eq {m e t : Nat} (h : m = (e + 1) * binade + t) (ht : t < binade) :
    scale m = e ∧ unitsOf m = (binade + t) * 2 ^ e := by
  have hdiv : m / binade = e + 1 := by rw [h, Nat.mul_comm, Nat.mul_add_div (by decide),
    Nat.div_eq_of_lt ht, Nat.add_zero]
  have hmod : m % binade = t := by rw [h, Nat.mul_comm, Nat.mul_add_mod, Nat.mod_eq_of_lt ht]
  simp [unitsOf, significand, scale, hdiv, hmod]

/-- There are no others. -/
theorem parts_cases (m : Nat) :
    m < binade ∨ ∃ e t, m = (e + 1) * binade + t ∧ t < binade := by
  by_cases h : m < binade
  · exact .inl h
  · have hpos : 0 < m / binade := Nat.div_pos (Nat.le_of_not_lt h) (by decide)
    refine .inr ⟨m / binade - 1, m % binade, ?_, Nat.mod_lt _ (by decide)⟩
    rw [Nat.sub_add_cancel hpos, Nat.mul_comm]
    exact (Nat.div_add_mod m binade).symm

/-- A magnitude from its scale and its significand, which may be the next power of two. -/
theorem unitsOf_mul_add {k q : Nat} (normal : k = 0 ∨ binade ≤ q) (le : q ≤ 2 * binade) :
    unitsOf (k * binade + q) = q * 2 ^ k := by
  by_cases small : q < binade
  · obtain rfl : k = 0 := by omega
    simpa using (parts_of_lt small).2
  · by_cases carry : q = 2 * binade
    · have parts := parts_of_eq (m := k * binade + q) (e := k + 1) (t := 0) (by rw [carry]; ring)
        (by decide)
      rw [parts.2, carry, Nat.add_zero, pow_succ]
      ring
    · obtain ⟨t, rfl⟩ : ∃ t, q = binade + t := ⟨q - binade, by omega⟩
      exact (parts_of_eq (by ring) (by omega)).2

/-- **The scale is the distance to the next magnitude.** -/
theorem unitsOf_succ (m : Nat) : unitsOf (m + 1) = unitsOf m + 2 ^ scale m := by
  rcases parts_cases m with small | ⟨e, t, h, ht⟩
  · obtain ⟨hscale, hunits⟩ := parts_of_lt small
    have hnext := unitsOf_mul_add (k := 0) (q := m + 1) (.inl rfl) (by omega)
    simp only [Nat.zero_mul, Nat.zero_add, pow_zero, Nat.mul_one] at hnext
    rw [hnext, hunits, hscale, pow_zero]
  · obtain ⟨hscale, hunits⟩ := parts_of_eq h ht
    have hnext := unitsOf_mul_add (k := e) (q := binade + t + 1) (.inr (by omega)) (by omega)
    rw [show m + 1 = e * binade + (binade + t + 1) by rw [h]; ring, hnext, hunits, hscale]
    ring

/-- A significand has 53 bits, and the next one no more than the next power of two. -/
theorem unitsOf_succ_le (m : Nat) : unitsOf (m + 1) ≤ 2 * binade * 2 ^ scale m := by
  rw [unitsOf_succ]
  rcases parts_cases m with small | ⟨e, t, h, ht⟩
  · obtain ⟨hscale, hunits⟩ := parts_of_lt small
    rw [hscale, hunits, pow_zero]
    omega
  · obtain ⟨hscale, hunits⟩ := parts_of_eq h ht
    rw [hscale, hunits, ← Nat.succ_mul]
    exact Nat.mul_le_mul_right _ (by omega)

/-- Above the smallest scale it has no fewer. -/
theorem le_unitsOf {m : Nat} (h : 0 < scale m) : binade * 2 ^ scale m ≤ unitsOf m := by
  rcases parts_cases m with small | ⟨e, t, hm, ht⟩
  · rw [(parts_of_lt small).1] at h
    omega
  · obtain ⟨hscale, hunits⟩ := parts_of_eq hm ht
    rw [hscale, hunits]
    exact Nat.mul_le_mul_right _ (by omega)

theorem strictMono_unitsOf : StrictMono unitsOf := by
  refine strictMono_nat_of_lt_succ fun m => ?_
  rw [unitsOf_succ]
  exact Nat.lt_add_of_pos_right (by positivity)

/-- Scales rise by one at most. -/
theorem scale_succ (m : Nat) : scale (m + 1) = scale m ∨ scale (m + 1) = scale m + 1 := by
  unfold scale
  have hstep : (m + 1) / binade = m / binade ∨ (m + 1) / binade = m / binade + 1 := by
    rw [Nat.succ_div]
    split
    · exact .inr rfl
    · exact .inl rfl
  omega

/-! ## 2. Midpoints -/

/-- Twice the number halfway between a magnitude and the next, in units. -/
def midpoint (m : Nat) : Nat :=
  unitsOf m + unitsOf (m + 1)

theorem strictMono_midpoint : StrictMono midpoint := by
  refine strictMono_nat_of_lt_succ fun m => ?_
  have h : unitsOf m < unitsOf (m + 1 + 1) := strictMono_unitsOf (by omega)
  simp only [midpoint]
  omega

/-- The midpoint above a magnitude is half a scale away. -/
theorem midpoint_eq (m : Nat) : midpoint m = 2 * unitsOf m + 2 ^ scale m := by
  rw [midpoint, unitsOf_succ]
  ring

/-- So is the midpoint below it, by the scale there. -/
theorem midpoint_add_pow (m : Nat) : midpoint m + 2 ^ scale m = 2 * unitsOf (m + 1) := by
  rw [midpoint, unitsOf_succ]
  ring

/-- The distance of two midpoints. -/
theorem midpoint_succ (m : Nat) :
    midpoint (m + 1) = midpoint m + (2 ^ scale m + 2 ^ scale (m + 1)) := by
  rw [midpoint_eq (m + 1), ← midpoint_add_pow m]
  ring

/-- **Midpoints are apart by a part of their value.** -/
theorem midpoint_succ_lt (m : Nat) :
    midpoint (m + 1) < 2 * binade * (2 ^ scale m + 2 ^ scale (m + 1)) := by
  have hunits : unitsOf (m + 1) ≤ 2 * binade * 2 ^ scale m := unitsOf_succ_le m
  have hnext : unitsOf (m + 1) + 2 ^ scale (m + 1) ≤ 2 * binade * 2 ^ scale (m + 1) := by
    rw [← unitsOf_succ]
    exact unitsOf_succ_le (m + 1)
  have hpos : 0 < 2 ^ scale m := by positivity
  rw [midpoint_eq]
  simp only [binade] at *
  -- where the scale rises, the significand has just become a power of two
  rcases scale_succ m with same | carry
  · rw [same] at hnext ⊢
    generalize 2 ^ scale m = gap at *
    omega
  · rw [carry, pow_succ] at hnext ⊢
    generalize 2 ^ scale m = gap at *
    omega

/-- The midpoint above a magnitude, from its scale and its significand. -/
theorem midpoint_mul_add {k q : Nat} (normal : k = 0 ∨ binade ≤ q) (lt : q < 2 * binade) :
    midpoint (k * binade + q) = (2 * q + 1) * 2 ^ k := by
  have hnext := unitsOf_mul_add (k := k) (q := q + 1) (by omega) (by omega)
  rw [midpoint, unitsOf_mul_add normal (by omega), Nat.add_assoc, hnext]
  ring

/-! ## 3. What rounds to a magnitude -/

/-- **A number of units rounds to a magnitude**: it lies between the midpoints on both sides, and on
    one of them only if the magnitude is even. -/
structure IsNearest (v : ℚ) (m : Nat) : Prop where
  above : 0 < m → (midpoint (m - 1) : ℚ) ≤ 2 * v
  below : 2 * v ≤ midpoint m
  odd : m % 2 = 1 → (midpoint (m - 1) : ℚ) < 2 * v ∧ 2 * v < midpoint m

/-- Between the midpoints there is no question. -/
theorem IsNearest.of_lt {v : ℚ} {m : Nat} (above : (midpoint (m - 1) : ℚ) < 2 * v)
    (below : 2 * v < midpoint m) : IsNearest v m :=
  ⟨fun _ => above.le, below.le, fun _ => ⟨above, below⟩⟩

/-- **Rounding keeps the order.** -/
theorem IsNearest.mono {v w : ℚ} {m n : Nat} (hm : IsNearest v m) (hn : IsNearest w n)
    (le : v ≤ w) : m ≤ n := by
  by_contra! lt
  have hle : midpoint n ≤ midpoint (m - 1) := strictMono_midpoint.monotone (by omega)
  have hleq : (midpoint n : ℚ) ≤ midpoint (m - 1) := by exact_mod_cast hle
  have habove := hm.above (by omega)
  have hbelow := hn.below
  have heq : (midpoint n : ℚ) = midpoint (m - 1) := by linarith
  have hnext : n = m - 1 := strictMono_midpoint.injective (by exact_mod_cast heq)
  -- of two neighbours one is odd, and does not reach the midpoint
  rcases Nat.mod_two_eq_zero_or_one n with even | odd
  · have := (hm.odd (by omega)).1
    linarith
  · have := (hn.odd odd).2
    linarith

/-- **A number rounds to one magnitude only.** -/
theorem IsNearest.unique {v : ℚ} {m n : Nat} (hm : IsNearest v m) (hn : IsNearest v n) : m = n :=
  Nat.le_antisymm (hm.mono hn le_rfl) (hn.mono hm le_rfl)

theorem two_mul_unitsOf_lt (m : Nat) : 2 * unitsOf m < midpoint m := by
  rw [midpoint_eq]
  exact Nat.lt_add_of_pos_right (by positivity)

theorem midpoint_lt_two_mul (m : Nat) : midpoint m < 2 * unitsOf (m + 1) := by
  rw [← midpoint_add_pow]
  exact Nat.lt_add_of_pos_right (by positivity)

/-- A magnitude's own value rounds to it. -/
theorem isNearest_unitsOf (m : Nat) : IsNearest (unitsOf m) m := by
  have habove : 0 < m → (midpoint (m - 1) : ℚ) < 2 * unitsOf m := by
    intro pos
    have h := midpoint_lt_two_mul (m - 1)
    rw [Nat.sub_add_cancel pos] at h
    exact_mod_cast h
  have hbelow : 2 * (unitsOf m : ℚ) < midpoint m := by exact_mod_cast two_mul_unitsOf_lt m
  exact ⟨fun pos => (habove pos).le, hbelow.le, fun odd => ⟨habove (by omega), hbelow⟩⟩

/-! ## 4. Rounding finds it -/

/-- The nearest whole number is at most a half away, and less if it is odd. -/
theorem divNearest_spec (num : Nat) {den : Nat} (pos : 0 < den) :
    2 * num ≤ (2 * divNearest num den + 1) * den ∧ 2 * divNearest num den * den ≤ 2 * num + den ∧
    (divNearest num den % 2 = 1 →
      2 * num < (2 * divNearest num den + 1) * den ∧
        2 * divNearest num den * den < 2 * num + den) := by
  have hnum : num = num / den * den + num % den := (Nat.div_add_mod' num den).symm
  have hlt : num % den < den := Nat.mod_lt num pos
  unfold divNearest
  generalize num / den = q at *
  generalize num % den = r at *
  simp only
  rcases lt_trichotomy (2 * r) den with less | half | more
  · rw [if_pos less, hnum]
    refine ⟨by linarith, by linarith, fun _ => ⟨by linarith, by linarith⟩⟩
  · rw [if_neg (by omega), if_neg (by omega), hnum]
    rcases Nat.mod_two_eq_zero_or_one q with even | odd
    · rw [even, Nat.add_zero]
      exact ⟨by linarith, by linarith, fun _ => by omega⟩
    · rw [odd]
      exact ⟨by linarith, by linarith, fun _ => by omega⟩
  · rw [if_neg (by omega), if_pos more, hnum]
    refine ⟨by linarith, by linarith, fun _ => ⟨by linarith, by linarith⟩⟩

/-- At its scale a fraction has a significand of 53 bits, and at the smallest one perhaps fewer. -/
theorem scaleOf_spec (num : Nat) {den : Nat} (pos : 0 < den) :
    num < den * 2 ^ (scaleOf num den + 53) ∧
      (scaleOf num den = 0 ∨ den * 2 ^ (scaleOf num den + 52) ≤ num) := by
  have hden : 2 ^ den.log2 ≤ den := Nat.log2_self_le pos.ne'
  have hden' : den < 2 ^ (den.log2 + 1) := Nat.lt_log2_self
  have hnum : num < 2 ^ (num.log2 + 1) := Nat.lt_log2_self
  unfold scaleOf
  simp only
  split
  case isTrue lt =>
    rcases Nat.eq_zero_or_pos (num.log2 - den.log2 - 52) with zero | rises
    · rw [zero] at lt ⊢
      refine ⟨lt.trans_le (Nat.mul_le_mul_left _ (Nat.pow_le_pow_right ?_ ?_)), .inl rfl⟩ <;> omega
    · have hnz : num ≠ 0 := by
        rintro rfl
        simp at rises
      refine ⟨?_, .inr ?_⟩
      · rwa [show num.log2 - den.log2 - 52 - 1 + 53 = num.log2 - den.log2 - 52 + 52 by omega]
      · calc den * 2 ^ (num.log2 - den.log2 - 52 - 1 + 52)
            ≤ 2 ^ (den.log2 + 1) * 2 ^ (num.log2 - den.log2 - 52 - 1 + 52) :=
              Nat.mul_le_mul_right _ hden'.le
          _ = 2 ^ num.log2 := by
              rw [← pow_add]
              congr 1
              omega
          _ ≤ num := Nat.log2_self_le hnz
  case isFalse ge =>
    refine ⟨?_, .inr (Nat.le_of_not_lt ge)⟩
    calc num < 2 ^ (num.log2 + 1) := hnum
      _ ≤ 2 ^ (den.log2 + (num.log2 - den.log2 - 52 + 53)) := Nat.pow_le_pow_right (by decide) (by omega)
      _ ≤ den * 2 ^ (num.log2 - den.log2 - 52 + 53) := by
          rw [pow_add]
          exact Nat.mul_le_mul_right _ hden

/-- The magnitude nearest to a fraction, were there no largest one. -/
def unboundedNearest (num den : Nat) : Nat :=
  scaleOf num den * binade + divNearest num (den * 2 ^ scaleOf num den)

theorem nearestMagnitude_eq_min (num den : Nat) :
    nearestMagnitude num den = min (unboundedNearest num den) infiniteMagnitude := rfl

theorem le_two_mul_div {a num den : Nat} (pos : 0 < den) :
    (a : ℚ) ≤ 2 * (num / den) ↔ a * den ≤ 2 * num := by
  rw [← mul_div_assoc, le_div_iff₀ (by exact_mod_cast pos)]
  exact_mod_cast Iff.rfl

theorem two_mul_div_le {a num den : Nat} (pos : 0 < den) :
    2 * ((num : ℚ) / den) ≤ a ↔ 2 * num ≤ a * den := by
  rw [← mul_div_assoc, div_le_iff₀ (by exact_mod_cast pos)]
  exact_mod_cast Iff.rfl

/-- **Rounding finds the magnitude that a fraction rounds to.** -/
theorem isNearest_unboundedNearest (num : Nat) {den : Nat} (pos : 0 < den) :
    IsNearest (num / den) (unboundedNearest num den) := by
  obtain ⟨hlt, hge⟩ := scaleOf_spec num pos
  rw [unboundedNearest]
  generalize scaleOf num den = k at *
  have hunit : 0 < den * 2 ^ k := by positivity
  obtain ⟨hup, hdown, hodd⟩ := divNearest_spec num hunit
  generalize divNearest num (den * 2 ^ k) = q at *
  rw [pow_add, ← Nat.mul_assoc] at hlt hge
  have hle : q ≤ 2 * binade := by
    have h : 2 * q * (den * 2 ^ k) < (2 ^ 54 + 1) * (den * 2 ^ k) := by linarith
    have := Nat.lt_of_mul_lt_mul_right h
    simp only [binade]
    omega
  have hnormal : k = 0 ∨ binade ≤ q := by
    refine hge.imp_right fun hge => ?_
    have h : 2 ^ 53 * (den * 2 ^ k) ≤ (2 * q + 1) * (den * 2 ^ k) := by linarith
    have := Nat.le_of_mul_le_mul_right h hunit
    simp only [binade]
    omega
  have hbelow : q < 2 * binade → midpoint (k * binade + q) * den = (2 * q + 1) * (den * 2 ^ k) := by
    intro lt
    rw [midpoint_mul_add hnormal lt]
    ring
  have habove : 0 < q → (k = 0 ∨ binade < q) →
      midpoint (k * binade + q - 1) * den + den * 2 ^ k = 2 * q * (den * 2 ^ k) := by
    intro qpos inside
    obtain ⟨q, rfl⟩ : ∃ p, q = p + 1 := ⟨q - 1, by omega⟩
    rw [← Nat.add_assoc, Nat.add_sub_cancel,
      midpoint_mul_add (inside.imp_right Nat.le_of_lt_succ) (by omega)]
    ring
  constructor
  case above =>
    intro rpos
    rw [le_two_mul_div pos]
    have qpos : 0 < q := by
      rcases hnormal with rfl | hq
      · omega
      · exact Nat.lt_of_lt_of_le (by decide) hq
    by_cases inside : k = 0 ∨ binade < q
    · have := habove qpos inside
      linarith
    · -- the fraction is no less than the power of two itself
      obtain rfl : q = binade := by omega
      have hge := hge.resolve_left (by omega)
      have hmid := midpoint_add_pow (k * binade + binade - 1)
      rw [Nat.sub_add_cancel rpos, unitsOf_mul_add (.inr (Nat.le_refl _)) (by decide)] at hmid
      calc midpoint (k * binade + binade - 1) * den ≤ 2 * (binade * 2 ^ k) * den :=
            Nat.mul_le_mul_right _ (Nat.le.intro hmid)
        _ = 2 * (den * 2 ^ k * 2 ^ 52) := by
            rw [show binade = 2 ^ 52 from rfl]
            ring
        _ ≤ 2 * num := by omega
  case below =>
    rw [two_mul_div_le pos]
    rcases Nat.lt_or_eq_of_le hle with lt | rfl
    · rw [hbelow lt]
      exact hup
    · -- the significand carries, and the midpoint above is further away still
      have hmid := midpoint_mul_add (k := k + 1) (q := binade) (.inr (Nat.le_refl _)) (by decide)
      rw [show k * binade + 2 * binade = (k + 1) * binade + binade by ring, hmid]
      calc 2 * num ≤ (2 * (2 * binade) + 1) * (den * 2 ^ k) := hup
        _ ≤ (2 * (2 * binade) + 2) * (den * 2 ^ k) := Nat.mul_le_mul_right _ (by omega)
        _ = (2 * binade + 1) * 2 ^ (k + 1) * den := by ring
  case odd =>
    intro odd
    have qodd : q % 2 = 1 := by
      simp only [binade] at odd
      omega
    have hne : q ≠ binade ∧ q ≠ 2 * binade := by
      simp only [binade]
      omega
    obtain ⟨hup, hdown⟩ := hodd qodd
    rw [← not_le, ← not_le, le_two_mul_div pos, two_mul_div_le pos, not_le, not_le, hbelow (by omega)]
    have := habove (by omega) (by omega)
    exact ⟨by linarith, hup⟩

section Fraction

variable {num den : Nat} (pos : 0 < den)

include pos

theorem nearestMagnitude_eq {m : Nat} (h : IsNearest (num / den) m) (le : m ≤ infiniteMagnitude) :
    nearestMagnitude num den = m := by
  rw [nearestMagnitude_eq_min, (isNearest_unboundedNearest num pos).unique h, Nat.min_eq_left le]

/-- **Up to the largest double nothing is out of range.** -/
theorem isNearest_nearestMagnitude {m : Nat} (le : (num / den : ℚ) ≤ unitsOf m)
    (lt : m < infiniteMagnitude) :
    IsNearest (num / den) (nearestMagnitude num den) ∧ nearestMagnitude num den ≤ m := by
  have h := isNearest_unboundedNearest num pos
  have hle := h.mono (isNearest_unitsOf m) le
  rw [nearestMagnitude_eq_min, Nat.min_eq_left (by omega)]
  exact ⟨h, hle⟩

end Fraction

example : nearest false 1 10 = ⟨0x3fb999999999999a⟩ := by decide +kernel

/-! ## 5. Relative errors -/

/-- The largest relative error of one rounding. -/
def roundoff : ℚ := 1 / 2 ^ 53

/-- Two numbers are no further apart than `k` roundings can move a number. -/
structure Near (k : Nat) (v w : ℚ) : Prop where
  below : (1 - roundoff) ^ k * v ≤ w
  above : (1 - roundoff) ^ k * w ≤ v

theorem factor_pos : 0 < 1 - roundoff := by norm_num [roundoff]

theorem pow_factor_pos (k : Nat) : 0 < (1 - roundoff) ^ k := pow_pos factor_pos k

section Near

variable {j k : Nat} {a b c d : ℚ}

theorem Near.pos (h : Near k a b) (pos : 0 < a) : 0 < b :=
  lt_of_lt_of_le (mul_pos (pow_factor_pos k) pos) h.below

theorem Near.symm (h : Near k a b) : Near k b a := ⟨h.above, h.below⟩

theorem Near.trans (h : Near j a b) (h' : Near k b c) : Near (j + k) a c := by
  constructor
  · calc (1 - roundoff) ^ (j + k) * a = (1 - roundoff) ^ k * ((1 - roundoff) ^ j * a) := by ring
      _ ≤ (1 - roundoff) ^ k * b := mul_le_mul_of_nonneg_left h.below (pow_factor_pos k).le
      _ ≤ c := h'.below
  · calc (1 - roundoff) ^ (j + k) * c = (1 - roundoff) ^ j * ((1 - roundoff) ^ k * c) := by ring
      _ ≤ (1 - roundoff) ^ j * b := mul_le_mul_of_nonneg_left h'.above (pow_factor_pos j).le
      _ ≤ a := h.above

/-- An exact factor adds no error. -/
theorem Near.mul_right (h : Near k a b) (hc : 0 ≤ c) : Near k (a * c) (b * c) := by
  constructor
  · rw [← mul_assoc]
    exact mul_le_mul_of_nonneg_right h.below hc
  · rw [← mul_assoc]
    exact mul_le_mul_of_nonneg_right h.above hc

theorem Near.div_right (h : Near k a b) (hc : 0 ≤ c) : Near k (a / c) (b / c) := by
  rw [div_eq_mul_inv, div_eq_mul_inv]
  exact h.mul_right (inv_nonneg.mpr hc)

/-- The errors of two factors add up. -/
theorem Near.mul (h : Near j a b) (h' : Near k c d) (ha : 0 ≤ a) (hb : 0 ≤ b) (hc : 0 ≤ c)
    (hd : 0 ≤ d) : Near (j + k) (a * c) (b * d) := by
  constructor
  · calc (1 - roundoff) ^ (j + k) * (a * c)
        = (1 - roundoff) ^ j * a * ((1 - roundoff) ^ k * c) := by ring
      _ ≤ b * d := mul_le_mul h.below h'.below (mul_nonneg (pow_factor_pos k).le hc) hb
  · calc (1 - roundoff) ^ (j + k) * (b * d)
        = (1 - roundoff) ^ j * b * ((1 - roundoff) ^ k * d) := by ring
      _ ≤ a * c := mul_le_mul h.above h'.above (mul_nonneg (pow_factor_pos k).le hd) ha

theorem Near.inv (h : Near k a b) (ha : 0 < a) (hb : 0 < b) : Near k a⁻¹ b⁻¹ := by
  constructor
  · rw [← div_eq_mul_inv, div_le_iff₀ ha, ← div_eq_inv_mul, le_div_iff₀ hb]
    exact h.above
  · rw [← div_eq_mul_inv, div_le_iff₀ hb, ← div_eq_inv_mul, le_div_iff₀ ha]
    exact h.below

/-- So do the errors of a quotient's parts. -/
theorem Near.div (h : Near j a b) (h' : Near k c d) (ha : 0 ≤ a) (hb : 0 ≤ b) (hc : 0 < c)
    (hd : 0 < d) : Near (j + k) (a / c) (b / d) := by
  rw [div_eq_mul_inv, div_eq_mul_inv]
  exact h.mul (h'.inv hc hd) ha hb (inv_nonneg.mpr hc.le) (inv_nonneg.mpr hd.le)

end Near

/-- Half the distance to the next magnitude is a small part of any number from the magnitude on, and
    a part that is `s` times as large where significands may have fewer bits. -/
theorem half_gap_le {s v : ℚ} {m : Nat} (hs : 1 ≤ s) (large : (binade : ℚ) ≤ s * v)
    (le : (unitsOf m : ℚ) ≤ v) : (2 : ℚ) ^ scale m / 2 ≤ s * (roundoff * v) := by
  have hbits : (binade : ℚ) * 2 ^ scale m ≤ s * v := by
    rcases Nat.eq_zero_or_pos (scale m) with zero | rises
    · simpa [zero] using large
    · have hv : (binade : ℚ) * 2 ^ scale m ≤ v := le_trans (by exact_mod_cast le_unitsOf rises) le
      have hpos : 0 ≤ v := le_trans (by positivity) hv
      exact hv.trans (le_mul_of_one_le_left hpos hs)
  norm_num [roundoff, binade] at hbits ⊢
  linarith

/-- What rounding does to a number, as a part of it. -/
theorem IsNearest.error_le {s v : ℚ} {m : Nat} (h : IsNearest v m) (hs : 1 ≤ s)
    (large : (binade : ℚ) ≤ s * v) : v - s * (roundoff * v) ≤ unitsOf m ∧
      unitsOf m - s * (roundoff * unitsOf m) ≤ v := by
  have hv : 0 < v := by
    refine pos_of_mul_pos_right (lt_of_lt_of_le ?_ large) (zero_le_one.trans hs)
    norm_num [binade]
  have hpart : ∀ x : ℚ, 0 ≤ x → 0 ≤ s * (roundoff * x) := fun x hx =>
    mul_nonneg (zero_le_one.trans hs) (mul_nonneg (by norm_num [roundoff]) hx)
  constructor
  · have hbelow := h.below
    have hmid : (midpoint m : ℚ) = 2 * unitsOf m + 2 ^ scale m := by exact_mod_cast midpoint_eq m
    rcases le_total v (unitsOf m) with le | ge
    · linarith [hpart v hv.le]
    · linarith [half_gap_le hs large ge]
  · rcases le_total (unitsOf m : ℚ) v with le | ge
    · linarith [hpart _ (Nat.cast_nonneg (unitsOf m))]
    · obtain ⟨m, rfl⟩ : ∃ n, m = n + 1 := by
        refine ⟨m - 1, (Nat.sub_add_cancel (Nat.pos_of_ne_zero ?_)).symm⟩
        rintro rfl
        have hzero : (unitsOf 0 : ℚ) = 0 := by exact_mod_cast (parts_of_lt (by decide)).2
        linarith
      have hmid : (midpoint m : ℚ) + 2 ^ scale m = 2 * unitsOf (m + 1) := by
        exact_mod_cast midpoint_add_pow m
      have hle : (unitsOf m : ℚ) ≤ unitsOf (m + 1) := by
        exact_mod_cast (strictMono_unitsOf (Nat.lt_succ_self m)).le
      have habove := h.above (Nat.succ_pos m)
      rw [Nat.add_sub_cancel] at habove
      have hlarge : (binade : ℚ) ≤ s * unitsOf (m + 1) :=
        large.trans (mul_le_mul_of_nonneg_left ge (zero_le_one.trans hs))
      linarith [half_gap_le hs hlarge hle]

/-- **One rounding is a small relative error**, where significands have all their bits. -/
theorem IsNearest.near {v : ℚ} {m : Nat} (h : IsNearest v m) (normal : (binade : ℚ) ≤ v) :
    Near 1 v (unitsOf m) := by
  obtain ⟨hlow, hhigh⟩ := h.error_le le_rfl (by linarith)
  constructor <;> linarith

/-- With two bits less it is no more than five such errors. -/
theorem IsNearest.near_of_subnormal {v : ℚ} {m : Nat} (h : IsNearest v m)
    (large : (binade : ℚ) ≤ 4 * v) : Near 5 v (unitsOf m) := by
  obtain ⟨hlow, hhigh⟩ := h.error_le (by norm_num) large
  have hv : 0 ≤ v := by
    have : (0 : ℚ) ≤ binade := Nat.cast_nonneg _
    linarith
  have hfactor : (1 - roundoff) ^ 5 ≤ 1 - 4 * roundoff := by norm_num [roundoff]
  constructor
  · linarith [mul_le_mul_of_nonneg_right hfactor hv]
  · linarith [mul_le_mul_of_nonneg_right hfactor (Nat.cast_nonneg (α := ℚ) (unitsOf m))]

/-- Each midpoint is closer to the next than a rounding. -/
theorem midpoint_lt (m : Nat) : (midpoint m : ℚ) < (1 - roundoff) * midpoint (m + 1) := by
  have hlt : (midpoint (m + 1) : ℚ) < 2 ^ 53 * (2 ^ scale m + 2 ^ scale (m + 1)) := by
    exact_mod_cast midpoint_succ_lt m
  have heq : (midpoint (m + 1) : ℚ) = midpoint m + (2 ^ scale m + 2 ^ scale (m + 1)) := by
    exact_mod_cast midpoint_succ m
  rw [roundoff]
  linarith

/-- The one after `k` others is further away than `k` roundings. -/
theorem midpoint_lt_pow (m k : Nat) :
    (midpoint m : ℚ) < (1 - roundoff) ^ (k + 1) * midpoint (m + (k + 1)) := by
  induction k with
  | zero => simpa using midpoint_lt m
  | succ k ih =>
    calc (midpoint m : ℚ) < (1 - roundoff) ^ (k + 1) * midpoint (m + (k + 1)) := ih
      _ < (1 - roundoff) ^ (k + 1) * ((1 - roundoff) * midpoint (m + (k + 1) + 1)) :=
        mul_lt_mul_of_pos_left (midpoint_lt _) (pow_factor_pos _)
      _ = (1 - roundoff) ^ (k + 1 + 1) * midpoint (m + (k + 1 + 1)) := by
        rw [← Nat.add_assoc m (k + 1) 1]
        ring

/-- Where roundings lead beyond a midpoint, they are as large as the way there. -/
theorem IsNearest.pow_mul_midpoint_le {v w : ℚ} {m n j k : Nat} (hm : IsNearest v m)
    (hn : IsNearest w n) (near : Near k v w) (far : m + j < n) :
    (1 - roundoff) ^ k * midpoint (m + j) ≤ midpoint m := by
  have hle : (midpoint (m + j) : ℚ) ≤ midpoint (n - 1) := by
    exact_mod_cast strictMono_midpoint.monotone (show m + j ≤ n - 1 by omega)
  calc (1 - roundoff) ^ k * (midpoint (m + j) : ℚ) ≤ (1 - roundoff) ^ k * (2 * w) :=
        mul_le_mul_of_nonneg_left (hle.trans (hn.above (by omega))) (pow_factor_pos k).le
    _ ≤ 2 * v := by linarith [near.above]
    _ ≤ midpoint m := hm.below

/-- **What is `k` roundings away is at most `k` magnitudes away.** -/
theorem IsNearest.le_add {v w : ℚ} {m n k : Nat} (hm : IsNearest v m) (hn : IsNearest w n)
    (kpos : 0 < k) (near : Near k v w) : n ≤ m + k := by
  by_contra! far
  obtain ⟨k, rfl⟩ : ∃ j, k = j + 1 := ⟨k - 1, by omega⟩
  exact absurd (hm.pow_mul_midpoint_le hn near far) (not_le.mpr (midpoint_lt_pow m k))

/-- **What is computed with `k` roundings is at most `k` magnitudes off.** -/
theorem nearestMagnitude_of_near {num den : Nat} (pos : 0 < den) {v : ℚ} {m k : Nat}
    (h : IsNearest v m) (kpos : 0 < k) (lt : m + k < infiniteMagnitude)
    (near : Near k v (num / den)) :
    IsNearest (num / den) (nearestMagnitude num den) ∧
      nearestMagnitude num den ≤ m + k ∧ m ≤ nearestMagnitude num den + k := by
  have hresult := isNearest_unboundedNearest num pos
  have hle := h.le_add hresult kpos near
  rw [nearestMagnitude_eq_min, Nat.min_eq_left (by omega)]
  exact ⟨hresult, hle, hresult.le_add h kpos near.symm⟩

/-- Among the smallest doubles, which are far apart, eight roundings do not go further than one. -/
theorem IsNearest.le_succ_of_small {v w : ℚ} {m n : Nat} (hm : IsNearest v m) (hn : IsNearest w n)
    (small : 2 * m + 3 < 2 ^ 51) (near : Near 8 v w) : n ≤ m + 1 := by
  by_contra! far
  have hmid : midpoint m = 2 * m + 1 ∧ midpoint (m + 1) = 2 * m + 3 := by
    have hsmall : ∀ k ≤ m + 2, unitsOf k = k := fun k hk => (parts_of_lt (by
      simp only [binade]
      omega)).2
    simp only [midpoint, hsmall m (by omega), hsmall (m + 1) (by omega),
      hsmall (m + 1 + 1) (by omega)]
    omega
  have hm' : (midpoint m : ℚ) = 2 * m + 1 := by exact_mod_cast hmid.1
  have hnext : (midpoint (m + 1) : ℚ) = 2 * m + 3 := by exact_mod_cast hmid.2
  have hsmall : (2 * m + 3 : ℚ) < 2 ^ 51 := by exact_mod_cast small
  have hfactor : 1 - 8 * roundoff ≤ (1 - roundoff) ^ 8 := by norm_num [roundoff]
  have hfar : (1 - 8 * roundoff) * (2 * m + 3) ≤ 2 * m + 1 :=
    calc (1 - 8 * roundoff) * (2 * m + 3) ≤ (1 - roundoff) ^ 8 * (2 * m + 3) :=
          mul_le_mul_of_nonneg_right hfactor (by positivity)
      _ = (1 - roundoff) ^ 8 * midpoint (m + 1) := by rw [hnext]
      _ ≤ midpoint m := hm.pow_mul_midpoint_le hn near far
      _ = 2 * m + 1 := hm'
  norm_num [roundoff] at hfar hsmall
  linarith

end TrialProtocol.Double
