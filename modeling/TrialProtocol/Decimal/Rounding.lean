import TrialProtocol.Decimal.Order
import TrialProtocol.Number.Shortest

/-!
# Decimals and machine numbers

Three ways between decimals and numbers of 64 bits.

* `toDouble` is the double nearest to the value.
* `machineNumber?` is how a document's reader takes a literal where it wants a machine number. It is
  *not* always the nearest double: the digits are collected in a word of 64 bits, and the power of
  ten is applied afterwards by a rounded multiplication or division.
* `ofDouble` writes a double with the fewest digits that still name it: plainly from 10⁻⁵ up to below
  10¹⁶, otherwise with an exponent.
-/

namespace TrialProtocol.Decimal

/-! ## 1. The nearest double -/

/-- The double nearest to `n` times ten to the power `p`. Powers far outside the range are told by
    the place of the first digit. -/
def nearestScaled (negative : Bool) (n : Nat) (p : Int) : Double :=
  let place := (digitsOf n).length + p
  if n = 0 then Double.ofMagnitude negative 0
  else if 310 < place then Double.infinity negative
  else if place < -330 then Double.ofMagnitude negative 0
  else if 0 ≤ p then Double.nearest negative (n * Nat.pow 10 p.toNat) 1
  else Double.nearest negative n (Nat.pow 10 (-p).toNat)

/-- The double nearest to the value, infinite if the value is too large. -/
def toDouble (d : Decimal) : Double :=
  nearestScaled d.negative (valueOf d.allDigits) (d.exponentValue - d.fraction.length)

/-! ## 2. Machine numbers in documents -/

/-- A literal as a machine number: a natural number or a negative one where it is written as such and
    fits a word, a double otherwise. -/
inductive MachineNumber where
  | natural (n : Nat)
  | negative (n : Int)
  | real (x : Double)
  deriving DecidableEq, Repr

/-- Collects whole digits in a word. From the first digit that does not fit, digits are only
    counted. -/
def collectWhole : Nat → List Digit → Nat × Nat
  | word, [] => (word, 0)
  | word, d :: ds =>
    if 10 * word + d.val ≤ Text.maxWord64 then collectWhole (10 * word + d.val) ds
    else (word, ds.length + 1)

/-- Collects digits behind the point in a word and counts them. From the first that does not fit,
    they are dropped. -/
def collectFraction : Nat → List Digit → Nat × Nat
  | word, [] => (word, 0)
  | word, d :: ds =>
    if 10 * word + d.val ≤ Text.maxWord64 then
      let (word, kept) := collectFraction (10 * word + d.val) ds
      (word, kept + 1)
    else (word, 0)

/-- The double of a power of ten. -/
def powerOfTen (n : Nat) : Double :=
  Double.ofNat (Nat.pow 10 n)

/-- Multiplies or divides by a power of ten in as few rounded steps as powers up to 10³⁰⁸ allow;
    `none` if the result is too large. -/
def scaleByPower (x : Double) (p : Int) : Option Double :=
  if 308 < p then
    if x.magnitude = 0 then some x else none
  else if 0 ≤ p then
    let y := x.mul (powerOfTen p.toNat)
    if y.isFinite then some y else none
  else if -308 ≤ p then some (x.div (powerOfTen (-p).toNat))
  else if x.magnitude = 0 then some x
  else scaleByPower (x.div (powerOfTen 308)) (p + 308)
termination_by p.natAbs
decreasing_by omega

/-- The nearest number that fits 32 bits with a sign. -/
def clamp32 (n : Int) : Int :=
  max (-0x80000000) (min n 0x7fffffff)

/-- A word times a power of ten, where the written exponent is added to `p`. A written exponent
    beyond 32 bits makes the number zero or too large. -/
def scaleWord (word : Nat) (p : Int) : Option Exponent → Option Double
  | none => scaleByPower (Double.ofNat word) p
  | some e =>
    if 0x80000000 ≤ valueOf e.digits then
      if word ≠ 0 ∧ !e.negative then none else some Double.zero
    else scaleByPower (Double.ofNat word) (clamp32 (p + e.value))

/-- The absolute value of a literal as a double, by way of a word and a power of ten. -/
def viaWord (d : Decimal) : Option Double :=
  let (word, counted) := collectWhole 0 d.whole
  let (word, kept) := collectFraction word d.fraction
  scaleWord word (counted - kept) d.exponent

/-- The machine number of a literal; `none` if it is too large for a double. -/
def machineNumber? (d : Decimal) : Option MachineNumber :=
  let n := valueOf d.whole
  if d.isInteger ∧ !d.negative ∧ n ≤ Text.maxWord64 then some (.natural n)
  else if d.isInteger ∧ d.negative ∧ n ≠ 0 ∧ n ≤ 0x8000000000000000 then some (.negative (-n))
  else d.viaWord.map fun x => .real (if d.negative then x.neg else x)

/-- A machine number as a double. -/
def MachineNumber.toDouble : MachineNumber → Double
  | .natural n => Double.ofNat n
  | .negative n => Double.nearest true n.natAbs 1
  | .real x => x

/-! ## 3. Writing a double -/

/-- A row of zeros. -/
def zeros (n : Nat) : List Digit :=
  List.replicate n 0

/-- The exponent of a whole number. -/
def Exponent.ofInt (n : Int) : Exponent :=
  let digits := digitsBefore n.natAbs []
  { negative := n < 0, first := digits.1, more := digits.2 }

/-- Shortest digits with the point behind the first `p` of them. -/
def ofShortest (negative : Bool) (digits : List Digit) (p : Int) : Decimal :=
  if p < -4 ∨ 16 < p then
    ofDigits negative (digits.take 1) (digits.drop 1) (some (Exponent.ofInt (p - 1)))
  else if p ≤ 0 then
    ofDigits negative [0] (zeros (-p).toNat ++ digits) none
  else if digits.length ≤ p.toNat then
    ofDigits negative (digits ++ zeros (p.toNat - digits.length)) [0] none
  else
    ofDigits negative (digits.take p.toNat) (digits.drop p.toNat) none

/-- The decimal of a finite double. -/
def ofFinite (x : Double) : Decimal :=
  if x.magnitude = 0 then ofDigits x.isNegative [0] [0] none
  else
    let (digits, p) := Double.shortest x.magnitude
    ofShortest x.isNegative digits p

/-- How a double is named that is not finite. -/
def nonFiniteName (x : Double) : String :=
  if x.isNaN then "NaN" else if x.isNegative then "-inf" else "inf"

/-- The decimal of a double. -/
def ofDouble (x : Double) : Except InvalidDecimal Decimal :=
  if x.isFinite then .ok (ofFinite x) else .error ⟨nonFiniteName x⟩

end TrialProtocol.Decimal
