/-!
# Decimal digits

Digits, their characters, and the number that a row of them denotes.

* `Digit.ofChar?_toChar`: a digit's character is read as the digit.
* `digitsBefore_fst_eq_zero`: the digits of a number other than zero begin with none.
-/

namespace TrialProtocol

/-- A decimal digit. -/
abbrev Digit := Fin 10

/-- There are digits, so that zero is one. -/
instance Digit.neZero_ten : @NeZero Nat Zero.ofOfNat0 10 := ⟨Nat.succ_ne_zero 9⟩

namespace Digit

/-- The character of a digit. -/
def toChar (d : Digit) : Char :=
  Char.ofNat ('0'.toNat + d.val)

/-- The digit of a character. -/
def ofChar? (c : Char) : Option Digit :=
  if isDigit : c.isDigit ∧ c.toNat - '0'.toNat < 10 then
    some ⟨c.toNat - '0'.toNat, isDigit.2⟩
  else none

theorem ofChar?_toChar (d : Digit) : ofChar? (toChar d) = some d := by
  revert d
  decide

theorem toChar_ofChar? {c : Char} {d : Digit} (h : ofChar? c = some d) : toChar d = c := by
  unfold ofChar? at h
  split at h
  · rename_i hc
    obtain ⟨hd, hlt⟩ := hc
    cases h
    simp only [Char.isDigit, Bool.and_eq_true, decide_eq_true_eq] at hd
    have h48 : 48 ≤ c.toNat := UInt32.le_iff_toNat_le.1 hd.1
    have hz : '0'.toNat = 48 := rfl
    simp only [toChar, hz]
    rw [show 48 + (c.toNat - 48) = c.toNat by omega, Char.ofNat_toNat]
  · simp at h

end Digit

/-- The number that digits denote, the highest first. -/
def valueOf (digits : List Digit) : Nat :=
  digits.foldl (fun n d => 10 * n + d.val) 0

/-- Drops the zeros at the end of a row of digits. -/
def dropLastZeros (digits : List Digit) : List Digit :=
  (digits.reverse.dropWhile (· == 0)).reverse

/-- The digits of `n` in front of `more`, the first one apart. -/
def digitsBefore (n : Nat) (more : List Digit) : Digit × List Digit :=
  if h : n < 10 then (⟨n, h⟩, more)
  else digitsBefore (n / 10) (⟨n % 10, Nat.mod_lt _ (by decide)⟩ :: more)
termination_by n
decreasing_by omega

theorem digitsBefore_fst_eq_zero {n : Nat} {more : List Digit}
    (h : (digitsBefore n more).1 = 0) : n = 0 := by
  fun_induction digitsBefore n more with
  | case1 n more hn => exact congrArg Fin.val h
  | case2 n more hn ih =>
    have := ih h
    omega

theorem digitsBefore_zero (more : List Digit) : digitsBefore 0 more = (0, more) := by
  rw [digitsBefore]
  simp

/-- The digits of a number; zero has one. -/
def digitsOf (n : Nat) : List Digit :=
  let (first, more) := digitsBefore n []
  first :: more

theorem valueOf_digitsBefore (n : Nat) (more : List Digit) :
    valueOf ((digitsBefore n more).1 :: (digitsBefore n more).2)
      = more.foldl (fun n d => 10 * n + d.val) n := by
  fun_induction digitsBefore n more with
  | case1 n more hn => simp [valueOf]
  | case2 n more hn ih =>
    rw [ih, List.foldl_cons]
    congr 1
    simp only
    omega

/-- A number's digits denote it. -/
theorem valueOf_digitsOf (n : Nat) : valueOf (digitsOf n) = n :=
  valueOf_digitsBefore n []

end TrialProtocol
