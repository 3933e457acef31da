import TrialProtocol.Decimal

/-!
# The order of decimals by value

Decimals compare by the number they denote, digit for digit and without rounding. A number other than
zero is `0.s` times ten to the power of its *point*, where the digits `s` neither begin nor end with
a zero; so of two positive numbers the one with the larger point is larger, and at the same point the
digits decide, compared from the left.

Points are kept within 64 bits with a sign: an exponent beyond that range counts as its end.
-/

namespace TrialProtocol.Decimal

/-! ## 1. Scaled form -/

/-- The nearest number that fits 64 bits with a sign. -/
def clamp64 (n : Int) : Int :=
  max (-0x8000000000000000) (min n 0x7fffffffffffffff)

/-- All digits, whole and fraction. -/
def allDigits (d : Decimal) : List Digit :=
  d.whole ++ d.fraction

/-- The digits between the first and the last that is not zero. -/
def coreDigits (d : Decimal) : List Digit :=
  dropLastZeros (d.allDigits.dropWhile (· == 0))

/-- How many zeros stand in front of the first other digit. -/
def zerosInFront (d : Decimal) : Nat :=
  (d.allDigits.takeWhile (· == 0)).length

/-- The written exponent, zero if there is none. -/
def exponentValue (d : Decimal) : Int :=
  (d.exponent.map Exponent.value).getD 0

/-- The power of ten in the scaled form, within its range. -/
def point (d : Decimal) : Int :=
  clamp64 ((d.whole.length : Int) - d.zerosInFront + clamp64 d.exponentValue)

/-- Minus one, zero or one. -/
def sign (d : Decimal) : Int :=
  if d.coreDigits.isEmpty then 0 else if d.negative then -1 else 1

/-! ## 2. Comparison -/

/-- The order of the absolute values of two numbers other than zero. -/
def compareMagnitude (a b : Decimal) : Ordering :=
  (compare a.point b.point).then (compare a.coreDigits b.coreDigits)

/-- The order by value. -/
def compareValue (a b : Decimal) : Ordering :=
  match compare a.sign b.sign with
  | .eq =>
    if a.sign = 0 then .eq
    else if a.sign < 0 then compareMagnitude b a
    else compareMagnitude a b
  | unequal => unequal

end TrialProtocol.Decimal
