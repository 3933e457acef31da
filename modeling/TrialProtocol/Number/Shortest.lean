import TrialProtocol.Number.Digit
import TrialProtocol.Number.Double

/-!
# The shortest decimal of a double

The fewest digits that still name a double among all doubles: a decimal names it if it lies among
the reals that round to it. On the grid of all decimals with a given number of digits only the two
neighbours of the exact value can do so; the first grid with a hit wins, of two hits the nearer one,
and of two equally near the one with an even last digit.

All is computed in natural numbers. A positive double is `2 * units / halves`, where a half is half
a unit, so that the midpoints between neighbouring doubles are whole as well.
-/

namespace TrialProtocol.Double

/-- The number of halves of a unit in one. -/
def halves : Nat := Nat.pow 2 1075

/-- The reals that round to a magnitude lie between these two, counted in halves of a unit. Below a
    power of two the doubles lie closer together. -/
def roundingInterval (magnitude : Nat) : Nat × Nat :=
  let u := significand magnitude * Nat.pow 2 (scale magnitude)
  let above := Nat.pow 2 (scale magnitude)
  let below := if magnitude % binade = 0 ∧ 0 < scale magnitude then above / 2 else above
  (2 * u - below, 2 * u + above)

/-- A number of grid steps of ten to the power `grid`, as a fraction of halves. -/
def onGrid (grid : Int) (steps : Nat) : Nat × Nat :=
  if 0 ≤ grid then (steps * Nat.pow 10 grid.toNat * halves, 1)
  else (steps * halves, Nat.pow 10 (-grid).toNat)

/-- Whether a point of the grid rounds to the magnitude; the ends of the interval do so if the
    significand is even. -/
def roundsTo (magnitude : Nat) (grid : Int) (steps : Nat) : Bool :=
  let (low, high) := roundingInterval magnitude
  let (num, den) := onGrid grid steps
  if magnitude % 2 = 0 then low * den ≤ num && num ≤ high * den
  else low * den < num && num < high * den

/-- The exact value in grid steps, rounded down. -/
def stepsBelow (magnitude : Nat) (grid : Int) : Nat :=
  let u := 2 * (significand magnitude * Nat.pow 2 (scale magnitude))
  if 0 ≤ grid then u / (Nat.pow 10 grid.toNat * halves) else u * Nat.pow 10 (-grid).toNat / halves

/-- The neighbour on the grid that is nearer to the exact value; a tie goes to the even one. -/
def nearerOf (magnitude : Nat) (grid : Int) (steps : Nat) : Nat :=
  let u := 2 * (significand magnitude * Nat.pow 2 (scale magnitude))
  let (num, den) := onGrid grid (2 * steps + 1)
  if 2 * u * den < num then steps
  else if num < 2 * u * den then steps + 1
  else steps + steps % 2

/-- The point of the grid that names the magnitude. -/
def hitOn (magnitude : Nat) (grid : Int) : Option Nat :=
  let lower := stepsBelow magnitude grid
  match roundsTo magnitude grid lower, roundsTo magnitude grid (lower + 1) with
  | true, true => some (nearerOf magnitude grid lower)
  | true, false => some lower
  | false, true => some (lower + 1)
  | false, false => none

/-- Whether ten to the power `p` is at most the magnitude's value. -/
def reachesPower (magnitude : Nat) (p : Int) : Bool :=
  let u := significand magnitude * Nat.pow 2 (scale magnitude)
  if 0 ≤ p then Nat.pow 10 p.toNat * one ≤ u else one ≤ u * Nat.pow 10 (-p).toNat

/-- The largest power of ten that is at most the value of a positive magnitude. -/
def powerOf (magnitude : Nat) : Int :=
  let u := significand magnitude * Nat.pow 2 (scale magnitude)
  let guess := ((u.log2 : Int) - 1074) * 30103 / 100000
  if reachesPower magnitude (guess + 1) then guess + 1
  else if reachesPower magnitude guess then guess
  else guess - 1

/-- The first grid with a hit, from one digit to seventeen. -/
def firstHit (magnitude : Nat) (power : Int) : Nat × Int :=
  let hits := (List.range 17).findSome? fun (n : Nat) =>
    (hitOn magnitude (power - n)).map (·, power - (n : Int))
  hits.getD (stepsBelow magnitude (power - 16), power - 16)

/-- The shortest digits of a positive magnitude, and how many of them (or how many zeros, if
    negative) stand between the first digit and the point. -/
def shortest (magnitude : Nat) : List Digit × Int :=
  let (steps, grid) := firstHit magnitude (powerOf magnitude)
  let digits := digitsOf steps
  (dropLastZeros digits, digits.length + grid)

end TrialProtocol.Double
