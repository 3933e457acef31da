/-!
# Double precision

Binary floating-point numbers of 64 bits, kept as their bits and computed with exactly.

* Every finite number is a whole number of *units* of 2⁻¹⁰⁷⁴, so an exact result is a fraction of
  two natural numbers, and `nearest` rounds it once: to the nearest number, a tie to the even one.
* Multiplication and division are exact first and rounded last, so no step rounds twice.
-/

namespace TrialProtocol

/-- A double precision number, as its 64 bits. -/
structure Double where
  bits : UInt64
  deriving DecidableEq, Repr

namespace Double

/-! ## 1. Parts -/

/-- The value of the sign bit, 2⁶³. -/
def signBit : Nat := 0x8000000000000000

/-- How many magnitudes there are from one power of two to the next, 2⁵². -/
def binade : Nat := 0x10000000000000

/-- Whether the sign bit is set. -/
def isNegative (x : Double) : Bool :=
  signBit ≤ x.bits.toNat

/-- The bits without the sign. They rise with the absolute value. -/
def magnitude (x : Double) : Nat :=
  x.bits.toNat % signBit

/-- The magnitude of infinity; those above are no numbers. -/
def infiniteMagnitude : Nat := 2047 * binade

/-- Neither infinite nor outside the numbers. -/
def isFinite (x : Double) : Bool :=
  x.magnitude < infiniteMagnitude

/-- Whether `x` is no number. -/
def isNaN (x : Double) : Bool :=
  infiniteMagnitude < x.magnitude

/-- The number with the given sign and magnitude. -/
def ofMagnitude (negative : Bool) (magnitude : Nat) : Double :=
  ⟨UInt64.ofNat (magnitude + if negative then signBit else 0)⟩

/-- The number with the opposite sign. -/
def neg (x : Double) : Double :=
  ofMagnitude (!x.isNegative) x.magnitude

def zero : Double := ⟨0⟩

/-- Infinity with a sign. -/
def infinity (negative : Bool) : Double :=
  ofMagnitude negative infiniteMagnitude

/-! ## 2. Units -/

/-- The power of two that separates a finite magnitude from the next, in units. -/
def scale (magnitude : Nat) : Nat :=
  magnitude / binade - 1

/-- The whole number in front of the scale. -/
def significand (magnitude : Nat) : Nat :=
  if magnitude / binade = 0 then magnitude else binade + magnitude % binade

/-- The absolute value of a finite number in units of 2⁻¹⁰⁷⁴. -/
def units (x : Double) : Nat :=
  significand x.magnitude * Nat.pow 2 (scale x.magnitude)

/-- The number of units in one. -/
def one : Nat := Nat.pow 2 1074

/-! ## 3. Rounding -/

/-- The quotient rounded to the nearest whole number, a tie to the even one. -/
def divNearest (num den : Nat) : Nat :=
  let q := num / den
  let r := num % den
  if 2 * r < den then q
  else if den < 2 * r then q + 1
  else q + q % 2

/-- The scale at which `num / den` units have a significand of at most 53 bits. -/
def scaleOf (num den : Nat) : Nat :=
  let guess := num.log2 - den.log2 - 52
  if num < den * Nat.pow 2 (guess + 52) then guess - 1 else guess

/-- The magnitude nearest to `num / den` units. Where the significand is rounded up to 2⁵³, the sum
    carries into the exponent, which is just the next magnitude. -/
def nearestMagnitude (num den : Nat) : Nat :=
  let k := scaleOf num den
  min (k * binade + divNearest num (den * Nat.pow 2 k)) infiniteMagnitude

/-- The number nearest to the fraction `num / den`. -/
def nearest (negative : Bool) (num den : Nat) : Double :=
  ofMagnitude negative (nearestMagnitude (num * one) den)

/-- The number nearest to a whole number. -/
def ofNat (n : Nat) : Double :=
  nearest false n 1

/-- The product of two finite numbers. -/
def mul (x y : Double) : Double :=
  ofMagnitude (x.isNegative != y.isNegative) (nearestMagnitude (x.units * y.units) one)

/-- The quotient of two finite numbers, of which the second is not zero. -/
def div (x y : Double) : Double :=
  ofMagnitude (x.isNegative != y.isNegative) (nearestMagnitude (x.units * one) y.units)

end Double

end TrialProtocol
