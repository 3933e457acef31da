import TrialProtocol.Proofs.Decimal.Scale
import TrialProtocol.Proofs.Decimal.Written

/-!
# Written doubles are read back, nearly

A double is written with the fewest digits that name it. It is read by collecting these digits in a
word and multiplying or dividing that by a power of ten, each step rounded by itself. So what comes
back need not be what was written.

* `IsBrief.isReadAs`: with at most 53 bits of digits and a power of ten up to 10²² it is.
* `exists_isReadAs`: in any case it is a finite double of the same sign, at most three doubles away.
* `isFinite_machineNumber`: nothing that is written is read as infinite.
-/

namespace TrialProtocol

namespace Decimal

/-! ## 1. Reading back -/

theorem viaWord_ofShortest (negative : Bool) (digits : List Digit) (p : Int) :
    (ofShortest negative digits p).viaWord = (ofShortest false digits p).viaWord := by
  unfold ofShortest
  split
  · rfl
  · split
    · rfl
    · split <;> rfl

/-- The largest doubles are not read as infinite. -/
theorem viaWord_of_large : ∀ m ∈ [Double.infiniteMagnitude - 3, Double.infiniteMagnitude - 2,
    Double.infiniteMagnitude - 1],
    (ofShortest false (Double.shortest m).1 (Double.shortest m).2).viaWord.any fun y =>
      !y.isNegative && y.isFinite && y.magnitude ≤ m + 3 && m ≤ y.magnitude + 3 := by
  decide +kernel

/-- What is no whole number is read by way of a word. -/
theorem machineNumber?_eq {d : Decimal} (notInteger : d.isInteger = false) :
    d.machineNumber? = d.viaWord.map fun x => .real (if d.negative then x.neg else x) := by
  unfold machineNumber?
  simp only [notInteger, Bool.false_eq_true, false_and, if_false]

/-! ## 2. Whatever is read is finite -/

theorem collectWhole_le (digits : List Digit) {word : Nat} (le : word ≤ Text.maxWord64) :
    (collectWhole word digits).1 ≤ Text.maxWord64 := by
  induction digits generalizing word with
  | nil => exact le
  | cons d ds ih =>
    rw [collectWhole]
    split
    · rename_i fits
      exact ih fits
    · exact le

theorem collectFraction_le (digits : List Digit) {word : Nat} (le : word ≤ Text.maxWord64) :
    (collectFraction word digits).1 ≤ Text.maxWord64 := by
  induction digits generalizing word with
  | nil => exact le
  | cons d ds ih =>
    rw [collectFraction]
    split
    · rename_i fits
      exact ih fits
    · exact le

/-- A word is a finite double. -/
theorem isFinite_word {n : Nat} (le : n ≤ Text.maxWord64) (negative : Bool) :
    (Double.nearest negative n 1).isFinite = true := by
  have hfinite := (Double.isNearest_ofNat (word_le (le.trans (by decide)))).2
  rw [Double.magnitude_ofNat] at hfinite
  rw [Double.isFinite, Double.nearest, Double.magnitude_ofMagnitude (Double.nearestMagnitude_lt _ _)]
  exact decide_eq_true hfinite

theorem isFinite_scaleByPower {x y : Double} {p : Int} (finite : x.isFinite = true)
    (h : scaleByPower x p = some y) : y.isFinite = true := by
  fun_induction scaleByPower x p with
  | case1 x p large zero =>
    cases h
    exact finite
  | case2 x p large nonzero => cases h
  | case3 x p small nonneg z hz =>
    rw [← Option.some.inj h]
    exact hz
  | case4 x p small nonneg z hz => cases h
  | case5 x p small neg low =>
    cases h
    exact (isNearest_div_powerOfTen finite (by omega)).2
  | case6 x p small neg low zero =>
    cases h
    exact finite
  | case7 x p small neg low nonzero ih =>
    exact ih (isNearest_div_powerOfTen finite le_rfl).2 h

theorem isFinite_viaWord {d : Decimal} {x : Double} (h : d.viaWord = some x) :
    x.isFinite = true := by
  rw [viaWord] at h
  have hwhole := collectWhole_le d.whole (Nat.zero_le Text.maxWord64)
  generalize collectWhole 0 d.whole = whole at *
  obtain ⟨word, counted⟩ := whole
  have hword := collectFraction_le d.fraction hwhole
  simp only at h hword
  generalize collectFraction word d.fraction = fraction at *
  obtain ⟨word, kept⟩ := fraction
  have hfinite : (Double.ofNat word).isFinite = true := isFinite_word hword false
  unfold scaleWord at h
  split at h
  · exact isFinite_scaleByPower hfinite h
  · split at h
    · split at h
      · cases h
      · cases h
        decide
    · exact isFinite_scaleByPower hfinite h

/-- **Every machine number is a finite double.** -/
theorem isFinite_machineNumber {d : Decimal} {n : MachineNumber} (h : d.machineNumber? = some n) :
    n.toDouble.isFinite = true := by
  unfold machineNumber? at h
  simp only at h
  split at h
  case isTrue fits =>
    cases h
    exact isFinite_word fits.2.2 false
  case isFalse =>
    split at h
    case isTrue fits =>
      cases h
      refine isFinite_word ?_ true
      rw [Int.natAbs_neg, Int.natAbs_natCast]
      exact fits.2.2.2.trans (by decide)
    case isFalse =>
      obtain ⟨x, hx, rfl⟩ := Option.map_eq_some_iff.mp h
      have hfinite := isFinite_viaWord hx
      show (if d.negative then x.neg else x).isFinite = true
      split
      · rw [Double.isFinite, Double.magnitude_neg]
        exact hfinite
      · exact hfinite

end Decimal

namespace Double

open Decimal (ofFinite)

/-! ## 3. What is read of a double -/

/-- **Two doubles are close**: both are finite, on the same side of zero, and at most three doubles
    apart. -/
structure IsClose (x y : Double) : Prop where
  sign : y.isNegative = x.isNegative
  finite : y.isFinite = true
  le : y.magnitude ≤ x.magnitude + 3
  ge : x.magnitude ≤ y.magnitude + 3

/-- A double that is written briefly: its digits make a whole number of at most 53 bits, and the power
    of ten is one of those that are doubles themselves. -/
def IsBrief (x : Double) : Prop :=
  (ofFinite x).coefficient ≤ 2 ^ 53 ∧ (ofFinite x).power.natAbs ≤ 22

instance (x : Double) : Decidable x.IsBrief :=
  inferInstanceAs (Decidable (_ ∧ _))

theorem negative_ofFinite (x : Double) : (ofFinite x).negative = x.isNegative := by
  unfold ofFinite Decimal.ofShortest
  split
  · rfl
  · simp only
    split
    · rfl
    · split
      · rfl
      · split <;> rfl

/-- A written double gets back its sign. -/
theorem isReadAs_of_viaWord {x y : Double} (finite : x.isFinite = true)
    (notInteger : (ofFinite x).isInteger = false)
    (read : (ofFinite x).viaWord = some y) :
    IsReadAs x (if x.isNegative then y.neg else y) := by
  refine ⟨finite, ?_⟩
  rw [Decimal.machineNumber?_eq notInteger, read, negative_ofFinite]
  rfl

/-- Its sign is the one that it had, if the word has none. -/
theorem parts_of_sign {x y : Double} (positive : y.isNegative = false) :
    (if x.isNegative then y.neg else y).isNegative = x.isNegative ∧
      (if x.isNegative then y.neg else y).magnitude = y.magnitude := by
  cases x.isNegative with
  | false => exact ⟨positive, rfl⟩
  | true => exact ⟨by simp [isNegative_neg, positive], magnitude_neg y⟩

/-- A double other than zero is written with its shortest digits. -/
theorem ofFinite_eq {x : Double} (h : x.magnitude ≠ 0) : ofFinite x =
    Decimal.ofShortest x.isNegative (shortest x.magnitude).1 (shortest x.magnitude).2 := by
  rw [ofFinite, if_neg h]

/-- Zero is written with one zero behind the point. -/
theorem ofFinite_of_zero {x : Double} (h : x.magnitude = 0) :
    (ofFinite x).coefficient = 0 ∧ (ofFinite x).power = -1 ∧ (ofFinite x).isInteger = false ∧
      (ofFinite x).exponent = none := by
  rw [ofFinite, if_pos h]
  exact ⟨rfl, rfl, rfl, rfl⟩

/-- **A finite double is written as a decimal of its magnitude.** -/
theorem writes_ofFinite {x : Double} (finite : x.isFinite = true) :
    (ofFinite x).Writes x.magnitude := by
  by_cases h : x.magnitude = 0
  · obtain ⟨hcoefficient, hpower, hinteger, hexponent⟩ := ofFinite_of_zero h
    constructor
    case notInteger => exact hinteger
    case nearest =>
      have hzero := isNearest_unitsOf 0
      rw [(parts_of_lt (by decide)).2] at hzero
      rwa [hcoefficient, h, Nat.cast_zero, zero_mul, ← Nat.cast_zero]
    case few => rw [hcoefficient]; decide
    case low => rw [hpower]; decide
    case high => rw [hpower]; decide
    case small =>
      refine ⟨fun e he => ?_, by rw [hpower]; decide⟩
      rw [hexponent] at he
      cases he
  · rw [ofFinite_eq h]
    exact Decimal.writes_ofShortest
      (names_shortest (Nat.pos_of_ne_zero h) (of_decide_eq_true finite)) x.isNegative

/-- **A double that is written briefly is read as itself.** -/
theorem IsBrief.isReadAs {x : Double} (brief : IsBrief x) (finite : x.isFinite = true) :
    IsReadAs x x := by
  have writes := writes_ofFinite finite
  have hlt : x.magnitude < infiniteMagnitude := of_decide_eq_true finite
  have hread : (ofFinite x).viaWord = some (ofMagnitude false x.magnitude) := by
    rw [writes.viaWord]
    exact Decimal.scaleByPower_of_brief writes.nearest hlt brief.1 brief.2
  have hself : (if x.isNegative then (ofMagnitude false x.magnitude).neg
      else ofMagnitude false x.magnitude) = x := by
    have positive : (ofMagnitude false x.magnitude).isNegative = false :=
      isNegative_ofMagnitude x.magnitude_lt
    obtain ⟨hsign, hmagnitude⟩ := parts_of_sign (x := x) positive
    exact ext_parts hsign (hmagnitude.trans (magnitude_ofMagnitude x.magnitude_lt))
  have h := isReadAs_of_viaWord finite writes.notInteger hread
  rwa [hself] at h

/-- What is read of a double other than zero, before it gets its sign. -/
theorem exists_viaWord {x : Double} (finite : x.isFinite = true) (nonzero : x.magnitude ≠ 0) :
    ∃ y, (ofFinite x).viaWord = some y ∧ y.isNegative = false ∧ y.isFinite = true ∧
      y.magnitude ≤ x.magnitude + 3 ∧ x.magnitude ≤ y.magnitude + 3 := by
  have writes := writes_ofFinite finite
  have hpos := writes.coefficient_pos (Nat.pos_of_ne_zero nonzero)
  have hlt : x.magnitude < infiniteMagnitude := of_decide_eq_true finite
  rcases Nat.lt_or_ge (x.magnitude + 3) infiniteMagnitude with below | large
  · have near : Decimal.ComesNear (ofFinite x).coefficient (ofFinite x).power x.magnitude := by
      rcases lt_or_ge (ofFinite x).power 0 with neg | nonneg
      · rcases lt_or_ge (ofFinite x).power (-308) with tiny | small
        · exact Decimal.comesNear_of_lt writes.nearest hpos writes.few below tiny writes.low
        · exact Decimal.comesNear_of_neg writes.nearest hpos writes.few below neg small
      · exact Decimal.comesNear_of_nonneg writes.nearest hpos writes.few below nonneg writes.high
    obtain ⟨y, hread, hsign, hle, hge⟩ := near
    exact ⟨y, by rw [writes.viaWord, hread], hsign, decide_eq_true (by omega), hle, hge⟩
  · -- the bound leaves no room below infinity, so the last three doubles are computed
    have hmem : x.magnitude ∈
        [infiniteMagnitude - 3, infiniteMagnitude - 2, infiniteMagnitude - 1] := by
      simp only [List.mem_cons, List.not_mem_nil, or_false]
      omega
    have hread := Decimal.viaWord_of_large _ hmem
    rw [Option.any_eq_true] at hread
    obtain ⟨y, hy, hclose⟩ := hread
    simp only [Bool.and_eq_true, Bool.not_eq_true', decide_eq_true_eq] at hclose
    obtain ⟨⟨⟨hsign, hfinite⟩, hle⟩, hge⟩ := hclose
    exact ⟨y, by rw [ofFinite_eq nonzero, Decimal.viaWord_ofShortest, hy], hsign, hfinite, hle, hge⟩

/-- **Every finite double is read as one that is close.** -/
theorem exists_isReadAs {x : Double} (finite : x.isFinite = true) :
    ∃ y, IsReadAs x y ∧ IsClose x y := by
  by_cases zero : x.magnitude = 0
  · have brief : IsBrief x := by
      obtain ⟨hcoefficient, hpower, -, -⟩ := ofFinite_of_zero zero
      rw [IsBrief, hcoefficient, hpower]
      decide
    exact ⟨x, brief.isReadAs finite, rfl, finite, Nat.le_add_right _ _, Nat.le_add_right _ _⟩
  · obtain ⟨y, hread, hsign, hfinite, hle, hge⟩ := exists_viaWord finite zero
    obtain ⟨sign, magnitude⟩ := parts_of_sign (x := x) hsign
    refine ⟨_, isReadAs_of_viaWord finite (writes_ofFinite finite).notInteger hread, sign, ?_, ?_, ?_⟩
    · rw [isFinite, magnitude]
      exact hfinite
    · rwa [magnitude]
    · rwa [magnitude]

end Double

end TrialProtocol
