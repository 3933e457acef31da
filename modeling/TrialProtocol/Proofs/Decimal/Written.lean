import TrialProtocol.Proofs.Decimal.Text
import TrialProtocol.Proofs.Number.Arithmetic

/-!
# How doubles are written

A double is written with the fewest digits that name it, in one of four layouts. It is read by way of a
word that collects its digits, and of a power of ten.

* `viaWord_eq`: what is read of a decimal whose digits fit the word.
* `writes_ofShortest`: all digits of a written double fit, and they name its magnitude.
-/

namespace TrialProtocol.Decimal

open Double (IsNearest Names unitsOfPower)

/-! ## 1. The word and the power of ten -/

/-- All digits as one whole number. -/
def coefficient (d : Decimal) : Nat :=
  valueOf d.allDigits

/-- The power of ten that it is multiplied by. -/
def power (d : Decimal) : Int :=
  d.exponentValue - d.fraction.length

theorem le_foldl_digits (digits : List Digit) (word : Nat) :
    word ≤ digits.foldl (fun n d => 10 * n + d.val) word := by
  rw [foldl_digits]
  exact Nat.le_trans (Nat.le_mul_of_pos_right _ (by positivity)) (Nat.le_add_right _ _)

/-- Whole digits that fit the word are all collected. -/
theorem collectWhole_eq {digits : List Digit} {word : Nat}
    (fits : digits.foldl (fun n d => 10 * n + d.val) word ≤ Text.maxWord64) :
    collectWhole word digits = (digits.foldl (fun n d => 10 * n + d.val) word, 0) := by
  induction digits generalizing word with
  | nil => rfl
  | cons d ds ih =>
    rw [List.foldl_cons] at fits ⊢
    rw [collectWhole, if_pos ((le_foldl_digits ds _).trans fits), ih fits]

/-- So are digits behind the point. -/
theorem collectFraction_eq {digits : List Digit} {word : Nat}
    (fits : digits.foldl (fun n d => 10 * n + d.val) word ≤ Text.maxWord64) :
    collectFraction word digits =
      (digits.foldl (fun n d => 10 * n + d.val) word, digits.length) := by
  induction digits generalizing word with
  | nil => rfl
  | cons d ds ih =>
    rw [List.foldl_cons] at fits ⊢
    rw [collectFraction, if_pos ((le_foldl_digits ds _).trans fits), ih fits]
    rfl

/-- An exponent that fits the range of exponents. -/
def HasSmallExponent (d : Decimal) : Prop :=
  (∀ e ∈ d.exponent, valueOf e.digits < 0x80000000) ∧ d.power.natAbs < 0x80000000

/-- **A decimal whose digits fit a word is read from all of them.** -/
theorem viaWord_eq {d : Decimal} (fits : d.coefficient ≤ Text.maxWord64)
    (small : d.HasSmallExponent) :
    d.viaWord = scaleByPower (Double.ofNat d.coefficient) d.power := by
  have hall : d.fraction.foldl (fun n d => 10 * n + d.val)
      (d.whole.foldl (fun n d => 10 * n + d.val) 0) = d.coefficient := by
    rw [coefficient, allDigits, valueOf, List.foldl_append]
  have hwhole : collectWhole 0 d.whole = (d.whole.foldl (fun n d => 10 * n + d.val) 0, 0) :=
    collectWhole_eq ((le_foldl_digits d.fraction _).trans (by rwa [hall]))
  have hfraction : collectFraction (d.whole.foldl (fun n d => 10 * n + d.val) 0) d.fraction =
      (d.coefficient, d.fraction.length) := by
    rw [collectFraction_eq (by rwa [hall]), hall]
  obtain ⟨hdigits, hpower⟩ := small
  rw [viaWord, hwhole]
  simp only [hfraction]
  cases he : d.exponent with
  | none =>
    have hp : d.power = -d.fraction.length := by simp [power, exponentValue, he]
    rw [scaleWord, hp]
    simp
  | some e =>
    have hp : d.power = (0 - d.fraction.length : Int) + e.value := by
      simp only [power, exponentValue, he, Option.map_some, Option.getD_some]
      ring
    have hclamp : clamp32 d.power = d.power := by
      rw [clamp32]
      omega
    have hlt := hdigits e (by rw [he]; rfl)
    rw [scaleWord, if_neg (by omega), Nat.cast_zero, ← hp, hclamp]

/-! ## 2. How a double is written -/

theorem valueOf_withoutLeadingZeros (digits : List Digit) :
    valueOf ((withoutLeadingZeros digits).1.1 :: (withoutLeadingZeros digits).1.2) =
      valueOf digits := by
  induction digits with
  | nil => rfl
  | cons d ds ih =>
    rw [withoutLeadingZeros]
    split
    case isTrue zero => rw [ih, zero]; rfl
    case isFalse => rfl

theorem coefficient_ofDigits (negative : Bool) (whole fraction : List Digit)
    (exponent : Option Exponent) :
    (ofDigits negative whole fraction exponent).coefficient = valueOf (whole ++ fraction) := by
  rw [coefficient, allDigits, valueOf_append, valueOf_append]
  congr 2
  exact valueOf_withoutLeadingZeros whole

theorem valueOf_digits_ofInt (n : Int) : valueOf (Exponent.ofInt n).digits = n.natAbs :=
  valueOf_digitsOf n.natAbs

theorem value_ofInt (n : Int) : (Exponent.ofInt n).value = n := by
  rw [Exponent.value, valueOf_digits_ofInt]
  simp only [Exponent.ofInt, decide_eq_true_eq]
  split <;> omega

/-- **A decimal that a double is written as**: not as a whole number, rounding to its magnitude, and
    with digits that fit a word. -/
structure Writes (d : Decimal) (m : Nat) : Prop where
  notInteger : d.isInteger = false
  nearest : IsNearest (d.coefficient * unitsOfPower d.power) m
  few : d.coefficient ≤ 10 ^ 17
  low : -340 ≤ d.power
  high : d.power ≤ 308
  small : d.HasSmallExponent

theorem Writes.viaWord {d : Decimal} {m : Nat} (h : d.Writes m) :
    d.viaWord = scaleByPower (Double.ofNat d.coefficient) d.power :=
  viaWord_eq (h.few.trans (by decide)) h.small

theorem Writes.coefficient_pos {d : Decimal} {m : Nat} (h : d.Writes m) (pos : 0 < m) :
    0 < d.coefficient := by
  refine Nat.pos_of_ne_zero fun zero => ?_
  have hnearest := h.nearest
  have hzero := Double.isNearest_unitsOf 0
  rw [(Double.parts_of_lt (by decide)).2] at hzero
  rw [zero, Nat.cast_zero, zero_mul, ← Nat.cast_zero] at hnearest
  exact pos.ne' (hnearest.unique hzero)

/-- Digits may be followed by zeros, for which the power of ten is smaller. -/
theorem Writes.of_names {digits : List Digit} {p : Int} {m : Nat} (names : Names digits p m)
    {d : Decimal} (notInteger : d.isInteger = false) (zeros : Nat)
    (coefficient : d.coefficient = valueOf digits * 10 ^ zeros)
    (power : d.power = p - digits.length - zeros) (few : d.coefficient ≤ 10 ^ 17)
    (low : -340 ≤ d.power) (exponent : ∀ e ∈ d.exponent, valueOf e.digits < 0x80000000) :
    d.Writes m where
  notInteger := notInteger
  nearest := by
    have hsplit : p - digits.length = d.power + (zeros : Nat) := by omega
    have hvalue : (d.coefficient : ℚ) * unitsOfPower d.power =
        valueOf digits * unitsOfPower (p - digits.length) := by
      rw [hsplit, Double.unitsOfPower_add, coefficient]
      push_cast
      ring
    rw [hvalue]
    exact names.nearest
  few := few
  low := low
  high := by
    have := names.high
    omega
  small := by
    have := names.high
    exact ⟨exponent, by omega⟩

/-- Mostly there are no such zeros. -/
theorem Writes.of_digits {digits : List Digit} {p : Int} {m : Nat} (names : Names digits p m)
    {d : Decimal} (notInteger : d.isInteger = false) (coefficient : d.coefficient = valueOf digits)
    (power : d.power = p - digits.length)
    (exponent : ∀ e ∈ d.exponent, valueOf e.digits < 0x80000000) : d.Writes m := by
  have hlow := names.low
  have hshort := names.short
  refine .of_names names notInteger 0 (by simpa using coefficient) (by simpa using power) ?_
    (by omega) exponent
  rw [coefficient]
  exact names.few

section Layouts

variable {digits : List Digit} {p : Int} {m : Nat} (names : Names digits p m) (negative : Bool)

include names

theorem length_pos_of_names : 0 < digits.length := by
  refine List.length_pos_of_ne_nil ?_
  rintro rfl
  exact absurd names.pos (by decide)

/-- With an exponent. -/
theorem writes_scientific : (ofDigits negative (digits.take 1) (digits.drop 1)
    (some (Exponent.ofInt (p - 1)))).Writes m := by
  have hlength := length_pos_of_names names
  have hlow := names.low
  have hhigh := names.high
  have hshort := names.short
  refine .of_digits names (by simp [isInteger, ofDigits]) ?_ ?_ ?_
  · rw [coefficient_ofDigits, List.take_append_drop]
  · simp only [power, exponentValue, ofDigits, Option.map_some, Option.getD_some, value_ofInt,
      List.length_drop]
    omega
  · intro e he
    simp only [ofDigits, Option.mem_def, Option.some.injEq] at he
    subst he
    rw [valueOf_digits_ofInt]
    omega

/-- With zeros between the point and the digits. -/
theorem writes_behind (small : p ≤ 0) :
    (ofDigits negative [0] (zeros (-p).toNat ++ digits) none).Writes m := by
  have hlength := length_pos_of_names names
  have hne := List.length_pos_iff.mp hlength
  refine .of_digits names (by simp [isInteger, ofDigits, hne]) ?_ ?_ fun e he => by cases he
  · have hzeros : valueOf ([0] ++ zeros (-p).toNat) = 0 := valueOf_replicate_zero ((-p).toNat + 1)
    rw [coefficient_ofDigits, ← List.append_assoc, valueOf_append, hzeros, Nat.zero_mul,
      Nat.zero_add]
  · simp only [power, exponentValue, ofDigits, Option.map_none, Option.getD_none,
      List.length_append, zeros, List.length_replicate]
    omega

/-- With zeros between the digits and the point, and one behind it. -/
theorem writes_whole (pos : 0 < p) (le : p ≤ 16) (whole : digits.length ≤ p.toNat) :
    (ofDigits negative (digits ++ zeros (p.toNat - digits.length)) [0] none).Writes m := by
  have hvalue : coefficient (ofDigits negative (digits ++ zeros (p.toNat - digits.length)) [0] none) =
      valueOf digits * 10 ^ (p.toNat - digits.length + 1) := by
    have hzeros : valueOf (zeros (p.toNat - digits.length) ++ [0]) = 0 := by
      rw [zeros, ← List.replicate_succ']
      exact valueOf_replicate_zero _
    rw [coefficient_ofDigits, List.append_assoc, valueOf_append, hzeros, Nat.add_zero]
    simp [zeros]
  have hpower : power (ofDigits negative (digits ++ zeros (p.toNat - digits.length)) [0] none) =
      -1 := by
    simp [power, exponentValue, ofDigits]
  -- the zeros count as digits of the word, the one behind the point too
  have hfew : valueOf digits * 10 ^ (p.toNat - digits.length + 1) ≤ 10 ^ 17 :=
    calc valueOf digits * 10 ^ (p.toNat - digits.length + 1)
        ≤ 10 ^ digits.length * 10 ^ (p.toNat - digits.length + 1) :=
          Nat.mul_le_mul_right _ (valueOf_lt digits).le
      _ = 10 ^ (digits.length + (p.toNat - digits.length + 1)) := (pow_add ..).symm
      _ ≤ 10 ^ 17 := Nat.pow_le_pow_right (by decide) (by omega)
  exact .of_names names (by simp [isInteger, ofDigits]) _ hvalue (by rw [hpower]; omega)
    (by rwa [hvalue]) (by rw [hpower]; decide) fun e he => by cases he

/-- With the point among the digits. -/
theorem writes_broken (pos : 0 < p) (lt : p < digits.length) :
    (ofDigits negative (digits.take p.toNat) (digits.drop p.toNat) none).Writes m := by
  have hdrop : digits.drop p.toNat ≠ [] := by
    rw [Ne, List.drop_eq_nil_iff]
    omega
  refine .of_digits names (by simp [isInteger, ofDigits, hdrop]) ?_ ?_ fun e he => by cases he
  · rw [coefficient_ofDigits, List.take_append_drop]
  · simp only [power, exponentValue, ofDigits, Option.map_none, Option.getD_none, List.length_drop]
    omega

/-- **The shortest digits are written as a decimal of their magnitude**, in whichever layout. -/
theorem writes_ofShortest : (ofShortest negative digits p).Writes m := by
  unfold ofShortest
  split
  case isTrue => exact writes_scientific names negative
  case isFalse plain =>
    split
    case isTrue small => exact writes_behind names negative small
    case isFalse large =>
      split
      case isTrue whole => exact writes_whole names negative (by omega) (by omega) whole
      case isFalse broken => exact writes_broken names negative (by omega) (by omega)

end Layouts

end TrialProtocol.Decimal
