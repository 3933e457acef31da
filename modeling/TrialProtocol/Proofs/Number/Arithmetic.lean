import TrialProtocol.Proofs.Number.Shortest

/-!
# Rounded products and quotients

Multiplication and division of doubles are exact up to one rounding, and so is the conversion of a
whole number. So a result that is computed in several steps lies few roundings away from the exact one,
and by `IsNearest.le_add` few magnitudes away from what that rounds to.

* `units_ofNat`: whole numbers of at most 53 bits are doubles. `near_ofNat`: the others nearly so.
* `mul_of_near`, `div_of_near`: a rounded result near a number that rounds to a known magnitude.
-/

namespace TrialProtocol.Double

/-! ## 1. Signs and magnitudes -/

section Parts

variable {negative : Bool} {m : Nat} (lt : m < signBit)

include lt

theorem toNat_ofMagnitude :
    (ofMagnitude negative m).bits.toNat = m + if negative then signBit else 0 := by
  rw [ofMagnitude, UInt64.toNat_ofNat']
  refine Nat.mod_eq_of_lt ?_
  simp only [signBit] at *
  split <;> omega

theorem magnitude_ofMagnitude : (ofMagnitude negative m).magnitude = m := by
  rw [magnitude, toNat_ofMagnitude lt]
  cases negative with
  | false => exact Nat.mod_eq_of_lt lt
  | true => exact (Nat.add_mod_right m signBit).trans (Nat.mod_eq_of_lt lt)

theorem isNegative_ofMagnitude : (ofMagnitude negative m).isNegative = negative := by
  rw [isNegative, toNat_ofMagnitude lt]
  cases negative with
  | false => exact decide_eq_false (Nat.not_le_of_lt lt)
  | true => exact decide_eq_true (Nat.le_add_left signBit m)

end Parts

theorem magnitude_lt (x : Double) : x.magnitude < signBit :=
  Nat.mod_lt _ (by decide)

/-- **A double is its sign and its magnitude.** -/
theorem ofMagnitude_eq (x : Double) : ofMagnitude x.isNegative x.magnitude = x := by
  have h : (ofMagnitude x.isNegative x.magnitude).bits.toNat = _ :=
    toNat_ofMagnitude x.magnitude_lt
  have hlt := x.bits.toNat_lt
  have hbits : x.magnitude + (if x.isNegative then signBit else 0) = x.bits.toNat := by
    rw [magnitude]
    by_cases hneg : signBit ≤ x.bits.toNat
    · rw [isNegative, decide_eq_true hneg]
      simp only [signBit, if_true] at *
      omega
    · rw [isNegative, decide_eq_false hneg, Nat.mod_eq_of_lt (Nat.lt_of_not_le hneg)]
      simp
  rw [hbits] at h
  obtain ⟨bits⟩ := x
  exact congrArg Double.mk (UInt64.toNat_inj.mp h)

theorem ext_parts {x y : Double} (sign : x.isNegative = y.isNegative)
    (magnitude : x.magnitude = y.magnitude) : x = y := by
  rw [← ofMagnitude_eq x, ← ofMagnitude_eq y, sign, magnitude]

theorem nearestMagnitude_lt (num den : Nat) : nearestMagnitude num den < signBit :=
  Nat.lt_of_le_of_lt (Nat.min_le_right _ _) (by decide)

theorem units_eq (x : Double) : x.units = unitsOf x.magnitude := rfl

theorem magnitude_neg (x : Double) : x.neg.magnitude = x.magnitude :=
  magnitude_ofMagnitude x.magnitude_lt

theorem isNegative_neg (x : Double) : x.neg.isNegative = !x.isNegative :=
  isNegative_ofMagnitude x.magnitude_lt

/-! ## 2. Whole numbers -/

theorem magnitude_ofNat (n : Nat) : (ofNat n).magnitude = nearestMagnitude (n * one) 1 :=
  magnitude_ofMagnitude (nearestMagnitude_lt _ _)

theorem isNegative_ofNat (n : Nat) : (ofNat n).isNegative = false :=
  isNegative_ofMagnitude (nearestMagnitude_lt _ _)

/-- Whole numbers of at most 53 bits are doubles at every scale. -/
theorem exists_unitsOf_eq {q : Nat} (le : q ≤ 2 * binade) (k : Nat) :
    ∃ m, unitsOf m = q * 2 ^ k := by
  induction k generalizing q with
  | zero => exact ⟨0 * binade + q, unitsOf_mul_add (.inl rfl) le⟩
  | succ k ih =>
    by_cases normal : binade ≤ q
    · exact ⟨(k + 1) * binade + q, unitsOf_mul_add (.inr normal) le⟩
    · obtain ⟨m, hm⟩ := ih (q := 2 * q) (by omega)
      refine ⟨m, ?_⟩
      rw [hm, pow_succ]
      ring

/-- The largest double is larger than 10³⁰⁸. -/
theorem unitsOfPower_le_unitsOf {p : Int} (le : p ≤ 308) :
    unitsOfPower p ≤ unitsOf (infiniteMagnitude - 1) :=
  (unitsOfPower_mono le).trans ((reaches_iff _ _).mp (by decide +kernel))

section Whole

variable {n : Nat} (le : (n * one : ℚ) ≤ unitsOfPower 308)

include le

theorem isNearest_ofNat :
    IsNearest (n * one) (ofNat n).magnitude ∧ (ofNat n).magnitude < infiniteMagnitude := by
  have hle : ((n * one : Nat) : ℚ) / (1 : Nat) ≤ unitsOf (infiniteMagnitude - 1) := by
    rw [Nat.cast_one, div_one, Nat.cast_mul]
    exact le.trans (unitsOfPower_le_unitsOf le_rfl)
  have h := isNearest_nearestMagnitude Nat.one_pos hle (by decide)
  rw [Nat.cast_one, div_one, Nat.cast_mul, ← magnitude_ofNat] at h
  exact ⟨h.1, Nat.lt_of_le_of_lt h.2 (by decide)⟩

/-- **A whole number becomes a double by one rounding.** -/
theorem near_ofNat (pos : 0 < n) : Near 1 (n * one) (ofNat n).units := by
  refine (isNearest_ofNat le).1.near ?_
  have hone : binade ≤ one := by decide +kernel
  exact_mod_cast hone.trans (Nat.le_mul_of_pos_left one pos)

/-- **One of at most 53 bits becomes a double as it is.** -/
theorem units_ofNat (few : n ≤ 2 * binade) : (ofNat n).units = n * one := by
  have hone : ∃ k, one = 2 ^ k := ⟨1074, by decide +kernel⟩
  obtain ⟨k, hk⟩ := hone
  obtain ⟨m, hm⟩ := exists_unitsOf_eq few k
  rw [← hk] at hm
  have hvalue : IsNearest (n * one) m := by
    have h := isNearest_unitsOf m
    rw [hm] at h
    exact_mod_cast h
  rw [units_eq, (isNearest_ofNat le).1.unique hvalue, hm]

end Whole

theorem unitsOfPower_natCast (k : Nat) : unitsOfPower k = ((Nat.pow 10 k : Nat) : ℚ) * one := by
  rw [unitsOfPower, zpow_natCast, Nat.pow_eq, Nat.cast_pow]
  rfl

/-! ## 3. Products and quotients -/

section Rounded

variable {x y : Double} {v : ℚ} {m k : Nat} (h : IsNearest v m) (kpos : 0 < k)
  (lt : m + k < infiniteMagnitude)

include h kpos lt

/-- **A product close to a number that rounds to a magnitude is close to that magnitude.** -/
theorem mul_of_near (near : Near k v (x.units * y.units / one)) :
    IsNearest (x.units * y.units / one) (x.mul y).magnitude ∧
      (x.mul y).magnitude ≤ m + k ∧ m ≤ (x.mul y).magnitude + k := by
  rw [← Nat.cast_mul] at near ⊢
  rw [mul, magnitude_ofMagnitude (nearestMagnitude_lt _ _)]
  exact nearestMagnitude_of_near one_pos h kpos lt near

/-- **So is a quotient.** -/
theorem div_of_near (pos : 0 < y.units) (near : Near k v (x.units * one / y.units)) :
    IsNearest (x.units * one / y.units) (x.div y).magnitude ∧
      (x.div y).magnitude ≤ m + k ∧ m ≤ (x.div y).magnitude + k := by
  rw [← Nat.cast_mul] at near ⊢
  rw [div, magnitude_ofMagnitude (nearestMagnitude_lt _ _)]
  exact nearestMagnitude_of_near pos h kpos lt near

end Rounded

theorem isNegative_mul (x y : Double) :
    (x.mul y).isNegative = (x.isNegative != y.isNegative) :=
  isNegative_ofMagnitude (nearestMagnitude_lt _ _)

theorem isNegative_div (x y : Double) :
    (x.div y).isNegative = (x.isNegative != y.isNegative) :=
  isNegative_ofMagnitude (nearestMagnitude_lt _ _)

end TrialProtocol.Double
