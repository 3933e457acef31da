import TrialProtocol.Decimal.Rounding
import TrialProtocol.Proofs.Decimal.Literal

/-!
# Written decimals are read back

A decimal is written as a literal whose exponent, if there is one, has a small mark and a sign
(`literal`). So `Decimal.scan` undoes `Decimal.text`, whatever stands behind the number, as long as that
does not continue it (`scan_text`), and a decimal keeps every digit on its way through a document.
-/

namespace TrialProtocol.Decimal

/-! ## 1. The number -/

/-- The spelling of an exponent with a small mark and always a sign. -/
def Exponent.literal (e : Exponent) : Literal.Exponent where
  large := false
  sign := if e.negative then .minus else .plus
  first := e.first
  more := e.more

/-- The literal that a decimal is written as. -/
def literal (d : Decimal) : Literal where
  negative := d.negative
  first := d.first
  more := d.more
  fraction := d.fraction
  exponent := d.exponent.map Exponent.literal
  no_leading_zero := d.no_leading_zero

theorem Exponent.kept_literal (e : Exponent) : e.literal.kept = e := by
  obtain ⟨negative, first, more⟩ := e
  cases negative <;> rfl

theorem Exponent.text_literal (e : Exponent) : e.literal.text = e.text := by
  obtain ⟨negative, first, more⟩ := e
  cases negative <;> rfl

/-- Nothing of a decimal is lost in its literal, … -/
theorem decimal_literal (d : Decimal) : d.literal.decimal = d := by
  have hexponent : (d.exponent.map Exponent.literal).map Literal.Exponent.kept = d.exponent := by
    have hid : Literal.Exponent.kept ∘ Exponent.literal = id := funext Exponent.kept_literal
    rw [Option.map_map, hid, Option.map_id, id]
  rw [Literal.decimal, literal]
  simp only [hexponent]

/-- … which is its text. -/
theorem text_literal (d : Decimal) : d.literal.text = d.text := by
  have hexponent : (d.exponent.map Exponent.literal).map Literal.Exponent.text =
      d.exponent.map Exponent.text := by
    rw [Option.map_map]
    exact Option.map_congr fun e _ => Exponent.text_literal e
  rw [Literal.text, text]
  exact congrArg (fun e => _ ++ e.getD []) hexponent

/-- **A written decimal is read back, digit for digit.** -/
theorem scan_text (d : Decimal) {rest : Document} (h : Avoids continues rest) :
    scan (d.text.map some ++ rest) = .ok (d, rest) := by
  rw [← text_literal, scan_literal d.literal h, decimal_literal]

/-! ## 2. Whole numbers -/

/-- A digit is written as the number it is. -/
theorem digitChar_eq_toChar {n : Nat} (h : n < 10) : n.digitChar = Digit.toChar ⟨n, h⟩ := by
  have all : ∀ d : Digit, d.val.digitChar = d.toChar := by decide
  exact all ⟨n, h⟩

/-- The digits in front of others are those that the number is written with. -/
theorem map_digitsBefore (n : Nat) (more : List Digit) :
    ((digitsBefore n more).1 :: (digitsBefore n more).2).map Digit.toChar =
      Nat.toDigits 10 n ++ more.map Digit.toChar := by
  fun_induction digitsBefore n more with
  | case1 n more hn =>
    rw [Nat.toDigits_of_lt_base hn, digitChar_eq_toChar hn]
    rfl
  | case2 n more hn ih =>
    have hm : n % 10 < 10 := Nat.mod_lt n (by decide)
    have hs := Nat.toDigits_of_base_le (b := 10) (n := n) (by decide) (by omega)
    rw [ih, hs, digitChar_eq_toChar hm, List.append_assoc]
    rfl

/-- The decimal of a natural number. -/
def ofNat (n : Nat) : Decimal where
  negative := false
  first := (digitsBefore n []).1
  more := (digitsBefore n []).2
  fraction := []
  exponent := none
  no_leading_zero h := by
    rw [digitsBefore_fst_eq_zero h, digitsBefore_zero]

/-- It is written with the fewest digits. -/
theorem text_ofNat (n : Nat) : (ofNat n).text = Nat.toDigits 10 n := by
  have h := map_digitsBefore n []
  rw [List.map_nil, List.append_nil] at h
  unfold text whole ofNat
  simp only [Bool.false_eq_true, if_false, List.nil_append, fractionText, Option.map_none,
    Option.getD_none, List.append_nil]
  exact h

theorem valueOf_whole_ofNat (n : Nat) : valueOf (ofNat n).whole = n :=
  valueOf_digitsOf n

end TrialProtocol.Decimal

namespace TrialProtocol.Double

/-! ## 3. Doubles -/

/-- **A double is read as another one** where it is written: its shortest decimal, taken as a machine
    number, is that one. -/
structure IsReadAs (x y : Double) : Prop where
  finite : x.isFinite = true
  read : (Decimal.ofFinite x).machineNumber?.map Decimal.MachineNumber.toDouble = some y

theorem IsReadAs.unique {x y z : Double} (h : IsReadAs x y) (h' : IsReadAs x z) : y = z :=
  Option.some.inj (h.read.symm.trans h'.read)

end TrialProtocol.Double
