import TrialProtocol.Number.Shortest
import TrialProtocol.Proofs.Number.Nearest
import Mathlib.Data.List.TakeWhile
import Mathlib.Tactic.NormNum

/-!
# The shortest decimal names its double

`Double.shortest` finds digits that round to the double they were made from. A grid is hit if one of
the two neighbours of the exact value lies between the midpoints; of the grids with seventeen digits
this cannot fail, since their steps are narrower than the distance of two midpoints.

* `powerOf_spec`: the guess of the first digit's place is at most one off.
* `roundsTo_iff`: the test for a hit is rounding itself.
* `firstHit_spec`: there is a hit, and it has at most seventeen digits.
-/

namespace TrialProtocol

/-! ## 1. Rows of digits -/

theorem foldl_digits (digits : List Digit) (n : Nat) :
    digits.foldl (fun n d => 10 * n + d.val) n = n * 10 ^ digits.length + valueOf digits := by
  induction digits generalizing n with
  | nil => simp [valueOf]
  | cons d ds ih =>
    have hfirst : valueOf (d :: ds) = d.val * 10 ^ ds.length + valueOf ds := by
      rw [valueOf, List.foldl_cons, ih, Nat.mul_zero, Nat.zero_add]
    rw [List.foldl_cons, ih, hfirst, List.length_cons]
    ring

/-- **Digits in front of others count as many tens as there are others.** -/
theorem valueOf_append (front back : List Digit) :
    valueOf (front ++ back) = valueOf front * 10 ^ back.length + valueOf back := by
  rw [valueOf, List.foldl_append, foldl_digits, ← valueOf]

theorem valueOf_replicate_zero (n : Nat) : valueOf (List.replicate n 0) = 0 := by
  induction n with
  | zero => rfl
  | succ n ih =>
    rw [List.replicate_succ, valueOf, List.foldl_cons, foldl_digits, ih]
    simp

/-- So many digits denote a number below that power of ten. -/
theorem valueOf_lt (digits : List Digit) : valueOf digits < 10 ^ digits.length := by
  induction digits with
  | nil => decide
  | cons d ds ih =>
    have hd := d.isLt
    rw [← List.singleton_append, valueOf_append, List.length_append, pow_add]
    have hone : valueOf [d] = d.val := by simp [valueOf]
    rw [hone]
    simp only [List.length_singleton]
    nlinarith

/-- What is dropped at the end are zeros. -/
theorem exists_dropLastZeros (digits : List Digit) :
    ∃ n, digits = dropLastZeros digits ++ List.replicate n 0 := by
  have hzeros : digits.reverse.takeWhile (· == 0) =
      List.replicate (digits.reverse.takeWhile (· == 0)).length 0 := by
    refine List.eq_replicate_of_mem fun d hd => ?_
    have hzero := List.mem_takeWhile_imp (p := (· == 0)) hd
    exact beq_iff_eq.mp hzero
  refine ⟨(digits.reverse.takeWhile (· == 0)).length, ?_⟩
  have happend := congrArg List.reverse
    (List.takeWhile_append_dropWhile (p := (· == 0)) (l := digits.reverse))
  rw [List.reverse_append, List.reverse_reverse, hzeros, List.reverse_replicate] at happend
  exact happend.symm

namespace Double

/-! ## 2. The place of the first digit -/

/-- The number of units in a power of ten. -/
def unitsOfPower (p : Int) : ℚ :=
  10 ^ p * one

theorem one_pos : 0 < one := by
  decide +kernel

theorem halves_eq : halves = 2 * one := by
  decide +kernel

theorem unitsOfPower_pos (p : Int) : 0 < unitsOfPower p :=
  mul_pos (zpow_pos (by norm_num) p) (Nat.cast_pos.mpr one_pos)

theorem unitsOfPower_add (p : Int) (n : Nat) :
    unitsOfPower (p + n) = 10 ^ n * unitsOfPower p := by
  rw [unitsOfPower, unitsOfPower, zpow_add₀ (by norm_num), zpow_natCast]
  ring

/-- Whether a number of units is at least a power of ten. -/
def reaches (units : Nat) (p : Int) : Bool :=
  if 0 ≤ p then Nat.pow 10 p.toNat * one ≤ units else one ≤ units * Nat.pow 10 (-p).toNat

theorem reaches_iff (u : Nat) (p : Int) : reaches u p = true ↔ unitsOfPower p ≤ u := by
  unfold reaches unitsOfPower
  split
  case isTrue nonneg =>
    obtain ⟨n, rfl⟩ := Int.eq_ofNat_of_zero_le nonneg
    rw [decide_eq_true_eq, Int.toNat_natCast, zpow_natCast]
    exact_mod_cast Iff.rfl
  case isFalse neg =>
    obtain ⟨n, rfl⟩ : ∃ n : Nat, p = -(n : Int) := ⟨(-p).toNat, by omega⟩
    have hpow : (0 : ℚ) < 10 ^ n := by positivity
    rw [decide_eq_true_eq, neg_neg, Int.toNat_natCast, zpow_neg, zpow_natCast, inv_mul_le_iff₀ hpow,
      mul_comm]
    exact_mod_cast Iff.rfl

/-- The guess for a number of so many bits. -/
def guessOf (bits : Nat) : Int :=
  ((bits : Int) - 1074) * 30103 / 100000

/-- **The guess is at most one off**, for every number of bits that a double has in units. -/
theorem guessOf_spec : ∀ bits < 2098, reaches (Nat.pow 2 bits) (guessOf bits - 1) = true ∧
    reaches (Nat.pow 2 (bits + 1) - 1) (guessOf bits + 2) = false := by
  decide +kernel

/-- The bits of the largest double. -/
theorem log2_unitsOf_lt {m : Nat} (lt : m < infiniteMagnitude) : (unitsOf m).log2 < 2098 := by
  have hscale : scale m + 53 ≤ 2098 := by
    have : m / binade < 2047 := Nat.div_lt_of_lt_mul (by rwa [Nat.mul_comm])
    rw [scale]
    omega
  have hlt : unitsOf m < 2 ^ (scale m + 53) :=
    calc unitsOf m < unitsOf (m + 1) := strictMono_unitsOf (Nat.lt_succ_self m)
      _ ≤ 2 ^ 53 * 2 ^ scale m := unitsOf_succ_le m
      _ = 2 ^ (scale m + 53) := by rw [← pow_add, Nat.add_comm]
  rcases Nat.eq_zero_or_pos (unitsOf m) with zero | pos
  · rw [zero]
    decide
  · exact ((Nat.log2_lt pos.ne').mpr hlt).trans_le hscale

/-- **The place of the first digit is found.** -/
theorem powerOf_spec {m : Nat} (pos : 0 < m) (lt : m < infiniteMagnitude) :
    unitsOfPower (powerOf m) ≤ unitsOf m ∧ (unitsOf m : ℚ) < unitsOfPower (powerOf m + 1) := by
  have hunits : unitsOf m ≠ 0 := by
    have := strictMono_unitsOf pos
    omega
  obtain ⟨hlow, hhigh⟩ := guessOf_spec _ (log2_unitsOf_lt lt)
  have hlow : unitsOfPower (guessOf (unitsOf m).log2 - 1) ≤ unitsOf m :=
    ((reaches_iff _ _).mp hlow).trans (by exact_mod_cast Nat.log2_self_le hunits)
  have hhigh : (unitsOf m : ℚ) < unitsOfPower (guessOf (unitsOf m).log2 + 2) := by
    have hlt : unitsOf m < 2 ^ ((unitsOf m).log2 + 1) := Nat.lt_log2_self
    have hle : unitsOf m ≤ Nat.pow 2 ((unitsOf m).log2 + 1) - 1 := Nat.le_pred_of_lt hlt
    refine lt_of_le_of_lt (Nat.cast_le.mpr hle) (not_le.mp fun reached => ?_)
    rw [(reaches_iff _ _).mpr reached] at hhigh
    cases hhigh
  have hpower : powerOf m = if reaches (unitsOf m) (guessOf (unitsOf m).log2 + 1) then
      guessOf (unitsOf m).log2 + 1
      else if reaches (unitsOf m) (guessOf (unitsOf m).log2) then guessOf (unitsOf m).log2
      else guessOf (unitsOf m).log2 - 1 := rfl
  generalize guessOf (unitsOf m).log2 = guess at *
  rw [hpower]
  split
  case isTrue above =>
    exact ⟨(reaches_iff _ _).mp above, by rwa [add_assoc]⟩
  case isFalse notAbove =>
    have hnot := not_le.mp (mt (reaches_iff _ _).mpr notAbove)
    split
    case isTrue at_ =>
      exact ⟨(reaches_iff _ _).mp at_, hnot⟩
    case isFalse below =>
      refine ⟨hlow, ?_⟩
      rw [sub_add_cancel]
      exact not_le.mp (mt (reaches_iff _ _).mpr below)

/-! ## 3. Points of a grid -/

/-- A point of a grid in units. -/
theorem onGrid_spec (grid : Int) (steps : Nat) : 0 < (onGrid grid steps).2 ∧
    ((onGrid grid steps).1 : ℚ) / (onGrid grid steps).2 = 2 * (steps * unitsOfPower grid) := by
  unfold onGrid unitsOfPower
  split
  case isTrue nonneg =>
    obtain ⟨n, rfl⟩ := Int.eq_ofNat_of_zero_le nonneg
    refine ⟨Nat.one_pos, ?_⟩
    simp only [Int.toNat_natCast, halves_eq, Nat.pow_eq, zpow_natCast]
    push_cast
    ring
  case isFalse neg =>
    obtain ⟨n, rfl⟩ : ∃ n : Nat, grid = -(n : Int) := ⟨(-grid).toNat, by omega⟩
    refine ⟨Nat.pow_pos (by decide), ?_⟩
    simp only [neg_neg, Int.toNat_natCast, halves_eq, Nat.pow_eq, zpow_neg, zpow_natCast]
    push_cast
    ring

/-- The ends of a magnitude's interval are the midpoints on both sides. -/
theorem roundingInterval_eq {m : Nat} (pos : 0 < m) :
    roundingInterval m = (midpoint (m - 1), midpoint m) := by
  obtain ⟨m, rfl⟩ : ∃ n, m = n + 1 := ⟨m - 1, by omega⟩
  have hbelow := midpoint_add_pow m
  have habove := midpoint_eq (m + 1)
  have hgap : (if (m + 1) % binade = 0 ∧ 0 < scale (m + 1) then 2 ^ scale (m + 1) / 2
      else 2 ^ scale (m + 1)) = 2 ^ scale m := by
    by_cases carry : binade ∣ m + 1
    · have hdiv : (m + 1) / binade = m / binade + 1 := by rw [Nat.succ_div, if_pos carry]
      have hscale : scale (m + 1) = m / binade := by rw [scale, hdiv, Nat.add_sub_cancel]
      rw [hscale, scale]
      rcases Nat.eq_zero_or_pos (m / binade) with zero | rises
      · simp [zero]
      · rw [if_pos ⟨Nat.mod_eq_zero_of_dvd carry, rises⟩]
        exact Nat.pow_div rises (by decide)
    · have hdiv : (m + 1) / binade = m / binade := by
        rw [Nat.succ_div, if_neg carry, Nat.add_zero]
      rw [if_neg (fun h => carry (Nat.dvd_of_mod_eq_zero h.1)), scale, hdiv, ← scale]
  show (2 * unitsOf (m + 1) - (if (m + 1) % binade = 0 ∧ 0 < scale (m + 1) then
      2 ^ scale (m + 1) / 2 else 2 ^ scale (m + 1)), 2 * unitsOf (m + 1) + 2 ^ scale (m + 1)) = _
  rw [hgap, ← habove, ← hbelow, Nat.add_sub_cancel, Nat.add_sub_cancel]

/-- **The test for a hit is rounding itself.** -/
theorem roundsTo_iff {m : Nat} (pos : 0 < m) (grid : Int) (steps : Nat) :
    roundsTo m grid steps = true ↔ IsNearest (steps * unitsOfPower grid) m := by
  obtain ⟨hden, hvalue⟩ := onGrid_spec grid steps
  have hq : (0 : ℚ) < (onGrid grid steps).2 := by exact_mod_cast hden
  have hle : ∀ a : Nat, (a : ℚ) ≤ 2 * (steps * unitsOfPower grid) ↔
      a * (onGrid grid steps).2 ≤ (onGrid grid steps).1 := by
    intro a
    rw [← hvalue, le_div_iff₀ hq]
    exact_mod_cast Iff.rfl
  have hge : ∀ a : Nat, 2 * (steps * unitsOfPower grid) ≤ (a : ℚ) ↔
      (onGrid grid steps).1 ≤ a * (onGrid grid steps).2 := by
    intro a
    rw [← hvalue, div_le_iff₀ hq]
    exact_mod_cast Iff.rfl
  simp only [roundsTo, roundingInterval_eq pos]
  split
  case isTrue even =>
    rw [Bool.and_eq_true, decide_eq_true_eq, decide_eq_true_eq, ← hle, ← hge]
    exact ⟨fun h => ⟨fun _ => h.1, h.2, fun odd => by omega⟩, fun h => ⟨h.above pos, h.below⟩⟩
  case isFalse odd =>
    rw [Bool.and_eq_true, decide_eq_true_eq, decide_eq_true_eq, ← not_le, ← not_le, ← hge, ← hle,
      not_le, not_le]
    exact ⟨fun h => ⟨fun _ => h.1.le, h.2.le, fun _ => h⟩, fun h => h.odd (by omega)⟩

/-- The exact value lies between two neighbours on the grid. -/
theorem stepsBelow_spec (m : Nat) (grid : Int) :
    stepsBelow m grid * unitsOfPower grid ≤ unitsOf m ∧
      (unitsOf m : ℚ) < (stepsBelow m grid + 1 : Nat) * unitsOfPower grid := by
  have hsteps : stepsBelow m grid = if 0 ≤ grid then
      2 * unitsOf m / (Nat.pow 10 grid.toNat * halves)
      else 2 * unitsOf m * Nat.pow 10 (-grid).toNat / halves := rfl
  have hone := one_pos
  rw [hsteps, halves_eq, unitsOfPower]
  generalize one = units at *
  split
  case isTrue nonneg =>
    obtain ⟨n, rfl⟩ := Int.eq_ofNat_of_zero_le nonneg
    rw [Int.toNat_natCast, zpow_natCast, Nat.pow_eq]
    have hle := Nat.div_mul_le_self (2 * unitsOf m) (10 ^ n * (2 * units))
    have hlt := Nat.lt_div_mul_add (a := 2 * unitsOf m) (b := 10 ^ n * (2 * units)) (by positivity)
    generalize 2 * unitsOf m / (10 ^ n * (2 * units)) = steps at *
    rw [← Nat.cast_le (α := ℚ)] at hle
    rw [← Nat.cast_lt (α := ℚ)] at hlt
    push_cast at hle hlt ⊢
    constructor <;> linarith
  case isFalse neg =>
    obtain ⟨n, rfl⟩ : ∃ n : Nat, grid = -(n : Int) := ⟨(-grid).toNat, by omega⟩
    rw [neg_neg, Int.toNat_natCast, zpow_neg, zpow_natCast, Nat.pow_eq]
    have hle := Nat.div_mul_le_self (2 * unitsOf m * 10 ^ n) (2 * units)
    have hlt := Nat.lt_div_mul_add (a := 2 * unitsOf m * 10 ^ n) (b := 2 * units) (by positivity)
    generalize 2 * unitsOf m * 10 ^ n / (2 * units) = steps at *
    have hpow : (0 : ℚ) < 10 ^ n := by positivity
    rw [← Nat.cast_le (α := ℚ)] at hle
    rw [← Nat.cast_lt (α := ℚ)] at hlt
    push_cast at hle hlt ⊢
    rw [mul_left_comm, inv_mul_le_iff₀ hpow, mul_left_comm, lt_inv_mul_iff₀ hpow]
    constructor <;> linarith

/-! ## 4. The first hit -/

/-- A hit is one of the two neighbours. -/
theorem hitOn_spec {m : Nat} (pos : 0 < m) {grid : Int} {steps : Nat}
    (h : hitOn m grid = some steps) :
    IsNearest (steps * unitsOfPower grid) m ∧
      (steps = stepsBelow m grid ∨ steps = stepsBelow m grid + 1) := by
  have hnearer : nearerOf m grid (stepsBelow m grid) = stepsBelow m grid ∨
      nearerOf m grid (stepsBelow m grid) = stepsBelow m grid + 1 := by
    unfold nearerOf
    simp only
    split
    · exact .inl rfl
    · split
      · exact .inr rfl
      · omega
  rw [← roundsTo_iff pos]
  unfold hitOn at h
  cases hlow : roundsTo m grid (stepsBelow m grid) <;>
    cases hhigh : roundsTo m grid (stepsBelow m grid + 1) <;>
    simp only [hlow, hhigh, reduceCtorEq, Option.some.injEq] at h <;> subst h
  · exact ⟨hhigh, .inr rfl⟩
  · exact ⟨hlow, .inl rfl⟩
  · refine ⟨?_, hnearer⟩
    rcases hnearer with hn | hn
    · rw [hn, hlow]
    · rw [hn, hhigh]

/-- **On a grid that is narrow enough there is a hit.** -/
theorem exists_hitOn {m : Nat} (pos : 0 < m) {grid : Int}
    (narrow : 10 ^ 16 * unitsOfPower grid ≤ unitsOf m) : ∃ steps, hitOn m grid = some steps := by
  by_contra! none
  obtain ⟨hle, hlt⟩ := stepsBelow_spec m grid
  have hmiss : roundsTo m grid (stepsBelow m grid) = false ∧
      roundsTo m grid (stepsBelow m grid + 1) = false := by
    unfold hitOn at none
    cases hlow : roundsTo m grid (stepsBelow m grid) <;>
      cases hhigh : roundsTo m grid (stepsBelow m grid + 1) <;>
      simp [hlow, hhigh] at none ⊢
  obtain ⟨m, rfl⟩ : ∃ n, m = n + 1 := ⟨m - 1, by omega⟩
  -- both neighbours lie outside, so the midpoints are no further apart than they are
  have habove : (midpoint m : ℚ) < 2 * unitsOf (m + 1) := by exact_mod_cast midpoint_lt_two_mul m
  have hbelow : 2 * (unitsOf (m + 1) : ℚ) < midpoint (m + 1) := by
    exact_mod_cast two_mul_unitsOf_lt (m + 1)
  have hlow : 2 * (stepsBelow (m + 1) grid * unitsOfPower grid) ≤ midpoint m := by
    by_contra! inside
    have hhit : IsNearest (stepsBelow (m + 1) grid * unitsOfPower grid) (m + 1) :=
      .of_lt inside (by linarith)
    rw [← roundsTo_iff pos, hmiss.1] at hhit
    cases hhit
  have hhigh : (midpoint (m + 1) : ℚ) ≤
      2 * ((stepsBelow (m + 1) grid + 1 : Nat) * unitsOfPower grid) := by
    by_contra! inside
    have hhit : IsNearest ((stepsBelow (m + 1) grid + 1 : Nat) * unitsOfPower grid) (m + 1) :=
      .of_lt (by rw [Nat.add_sub_cancel]; linarith) inside
    rw [← roundsTo_iff pos, hmiss.2] at hhit
    cases hhit
  have hfactor := midpoint_lt m
  rw [roundoff] at hfactor
  push_cast at hhigh
  linarith

/-- **There is a hit, and it has at most seventeen digits.** -/
theorem firstHit_spec {m : Nat} (pos : 0 < m) (lt : m < infiniteMagnitude) :
    ∃ n < 17, ∃ steps, firstHit m (powerOf m) = (steps, powerOf m - (n : Nat)) ∧
      IsNearest (steps * unitsOfPower (powerOf m - (n : Nat))) m ∧
      10 ^ n ≤ steps ∧ steps ≤ 10 ^ (n + 1) := by
  obtain ⟨hlow, hhigh⟩ := powerOf_spec pos lt
  generalize powerOf m = power at *
  have hgrid : ∀ n : Nat, unitsOfPower power = 10 ^ n * unitsOfPower (power - n) := by
    intro n
    rw [← unitsOfPower_add, sub_add_cancel]
  have narrow : 10 ^ 16 * unitsOfPower (power - (16 : Nat)) ≤ unitsOf m := by rwa [← hgrid]
  obtain ⟨last, hlast⟩ := exists_hitOn pos narrow
  obtain ⟨⟨steps, grid⟩, hfound⟩ : ∃ hit, (List.range 17).findSome? (fun n : Nat =>
      (hitOn m (power - n)).map (·, power - (n : Int))) = some hit := by
    rw [← Option.isSome_iff_exists, List.findSome?_isSome_iff]
    refine ⟨16, by simp, ?_⟩
    rw [Option.isSome_map, hlast]
    rfl
  obtain ⟨n, hn, hit⟩ := List.exists_of_findSome?_eq_some hfound
  obtain ⟨found, hhit, heq⟩ := Option.map_eq_some_iff.mp hit
  cases heq
  refine ⟨n, List.mem_range.mp hn, steps, ?_, ?_⟩
  · simp only [firstHit, hfound, Option.getD_some]
  · obtain ⟨hnearest, hsteps⟩ := hitOn_spec pos hhit
    obtain ⟨hle, hlt⟩ := stepsBelow_spec m (power - n)
    have hpos := unitsOfPower_pos (power - n)
    have hfew : stepsBelow m (power - n) < 10 ^ (n + 1) := by
      have h : (stepsBelow m (power - n) : ℚ) * unitsOfPower (power - n) <
          (10 ^ (n + 1) : Nat) * unitsOfPower (power - n) := by
        refine lt_of_le_of_lt hle (hhigh.trans_le (le_of_eq ?_))
        have := unitsOfPower_add power 1
        push_cast at this ⊢
        rw [this, hgrid n]
        ring
      exact_mod_cast lt_of_mul_lt_mul_right h hpos.le
    have hmany : 10 ^ n < stepsBelow m (power - n) + 1 := by
      have h : ((10 ^ n : Nat) : ℚ) * unitsOfPower (power - n) <
          (stepsBelow m (power - n) + 1 : Nat) * unitsOfPower (power - n) := by
        refine lt_of_le_of_lt (le_of_eq_of_le ?_ hlow) hlt
        rw [hgrid n]
        push_cast
        rfl
      exact_mod_cast lt_of_mul_lt_mul_right h hpos.le
    refine ⟨hnearest, ?_, ?_⟩ <;> omega

/-- Digits that name a magnitude: with the point behind the first `p` of them they round to it, and
    there are few enough for a word of 64 bits. -/
structure Names (digits : List Digit) (p : Int) (m : Nat) : Prop where
  nearest : IsNearest (valueOf digits * unitsOfPower (p - digits.length)) m
  pos : 0 < valueOf digits
  few : valueOf digits ≤ 10 ^ 17
  short : digits.length ≤ 18
  low : -340 ≤ p - digits.length
  high : p - digits.length ≤ 308

theorem unitsOfPower_mono {p q : Int} (le : p ≤ q) : unitsOfPower p ≤ unitsOfPower q :=
  mul_le_mul_of_nonneg_right (zpow_le_zpow_right₀ (by norm_num) le) (Nat.cast_nonneg one)

/-- Nothing that rounds to a double has more than 309 digits in front of the point. -/
theorem le_of_isNearest {m n : Nat} (lt : m < infiniteMagnitude) {p : Int} (pos : 0 < n)
    (h : IsNearest (n * unitsOfPower p) m) : p ≤ 308 := by
  by_contra! large
  have hlarge : reaches (unitsOf infiniteMagnitude) 309 = false := by decide +kernel
  have hreach : unitsOfPower 309 ≤ unitsOf infiniteMagnitude :=
    calc unitsOfPower 309 ≤ unitsOfPower p := unitsOfPower_mono large
      _ ≤ n * unitsOfPower p :=
        le_mul_of_one_le_left (unitsOfPower_pos p).le (by exact_mod_cast pos)
      _ ≤ unitsOf (m + 1) := by
        have hbelow := h.below
        have hmid : (midpoint m : ℚ) < 2 * unitsOf (m + 1) := by
          exact_mod_cast midpoint_lt_two_mul m
        linarith
      _ ≤ unitsOf infiniteMagnitude := by exact_mod_cast strictMono_unitsOf.monotone lt
  rw [(reaches_iff _ _).mpr hreach] at hlarge
  cases hlarge

/-- The smallest double has its first digit in the place of 10⁻³²⁴. -/
theorem le_powerOf {m : Nat} (pos : 0 < m) (lt : m < infiniteMagnitude) : -324 ≤ powerOf m := by
  by_contra! small
  have hsmall : unitsOfPower (-324) ≤ (1 : Nat) := (reaches_iff 1 _).mp (by decide +kernel)
  have hunits : 0 < unitsOf m := Nat.lt_of_le_of_lt (Nat.zero_le _) (strictMono_unitsOf pos)
  have hone : (1 : ℚ) ≤ unitsOf m := by exact_mod_cast hunits
  have hhigh := (powerOf_spec pos lt).2
  have hle := unitsOfPower_mono (show powerOf m + 1 ≤ -324 by omega)
  rw [Nat.cast_one] at hsmall
  linarith

/-- A number of at most seventeen digits, or the one behind them, has at most eighteen. -/
theorem length_digitsOf_le {n : Nat} (pos : 0 < n) (le : n ≤ 10 ^ 17) :
    (digitsOf n).length ≤ 18 := by
  have hvalue := valueOf_digitsOf n
  have hfirst : (digitsBefore n []).1 ≠ 0 := fun h => by
    have := digitsBefore_fst_eq_zero h
    omega
  rw [digitsOf] at hvalue ⊢
  generalize digitsBefore n [] = digits at *
  obtain ⟨d, ds⟩ := digits
  simp only at hvalue hfirst ⊢
  have hd : 1 ≤ d.val := Nat.one_le_iff_ne_zero.mpr fun h => hfirst (Fin.ext h)
  have hone : valueOf [d] = d.val := by simp [valueOf]
  rw [← List.singleton_append, valueOf_append, hone] at hvalue
  have hpow : 10 ^ ds.length ≤ 10 ^ 17 :=
    calc 10 ^ ds.length ≤ d.val * 10 ^ ds.length := Nat.le_mul_of_pos_left _ hd
      _ ≤ n := by rw [← hvalue]; exact Nat.le_add_right _ _
      _ ≤ 10 ^ 17 := le
  have := (Nat.pow_le_pow_iff_right (by decide)).mp hpow
  rw [List.length_cons]
  omega

/-- **The shortest digits name their magnitude.** -/
theorem names_shortest {m : Nat} (pos : 0 < m) (lt : m < infiniteMagnitude) :
    Names (shortest m).1 (shortest m).2 m := by
  obtain ⟨n, hn, steps, hhit, hnearest, hmany, hfew⟩ := firstHit_spec pos lt
  have hlow := le_powerOf pos lt
  have hshortest : shortest m = (dropLastZeros (digitsOf steps),
      (digitsOf steps).length + (powerOf m - n)) := by
    rw [shortest, hhit]
  generalize powerOf m = power at *
  have hpos : 0 < steps := Nat.lt_of_lt_of_le (by positivity) hmany
  have hle : steps ≤ 10 ^ 17 := hfew.trans (Nat.pow_le_pow_right (by decide) hn)
  obtain ⟨k, hk⟩ := exists_dropLastZeros (digitsOf steps)
  have hlength := length_digitsOf_le hpos hle
  have hcount : (digitsOf steps).length = (dropLastZeros (digitsOf steps)).length + k := by
    have h := congrArg List.length hk
    rwa [List.length_append, List.length_replicate] at h
  have hsteps : steps = valueOf (dropLastZeros (digitsOf steps)) * 10 ^ k := by
    have h := congrArg valueOf hk
    rwa [valueOf_digitsOf, valueOf_append, valueOf_replicate_zero, List.length_replicate,
      Nat.add_zero] at h
  rw [hshortest]
  rw [hcount] at hlength ⊢
  generalize dropLastZeros (digitsOf steps) = digits at *
  have hplace : ((digits.length + k : Nat) : Int) + (power - n) - digits.length =
      power - n + (k : Nat) := by
    push_cast
    ring
  have hvalue : (steps : ℚ) * unitsOfPower (power - n) =
      valueOf digits * unitsOfPower (power - n + (k : Nat)) := by
    rw [unitsOfPower_add, hsteps]
    push_cast
    ring
  rw [hvalue] at hnearest
  have hdigits : 0 < valueOf digits := Nat.pos_of_mul_pos_right (hsteps ▸ hpos)
  constructor
  case nearest => simpa only [hplace] using hnearest
  case pos => exact hdigits
  case few =>
    exact le_trans (by rw [hsteps]; exact Nat.le_mul_of_pos_right _ (by positivity)) hle
  case short => exact (Nat.le_add_right _ _).trans hlength
  case low => simp only [hplace]; omega
  case high => simpa only [hplace] using le_of_isNearest lt hdigits hnearest

example : shortest (nearest false 1 10).magnitude = ([1], 0) := by decide +kernel

end Double

end TrialProtocol
