import MultiDispatch.Binary64.Magnitude

set_option autoImplicit false
set_option relaxedAutoImplicit false

/-!
# Decimal numbers

A nonnegative decimal number is a whole number of units of a power of ten.  Compared with half
units of `2 ^ (-1074)` it rounds to a float; both sides of the comparison are multiplied by
what makes them whole, so the comparison is one of natural numbers and exact.

## Main definitions

* `MultiDispatch.Decimal` — `digits * 10 ^ exponent`.
* `MultiDispatch.Decimal.against` — comparison with a number of half units.
* `MultiDispatch.Decimal.nearest` — the pattern of the nearest float.

## Main results

* `MultiDispatch.Decimal.isReal_against` — the comparison is that of a real number.
-/

namespace MultiDispatch

/-- The decimal number `digits * 10 ^ exponent`. -/
structure Decimal where
  digits : Nat
  exponent : Int
deriving DecidableEq, Repr

namespace Decimal

-- Powers are those of the core library, whatever else is imported.
attribute [local instance (2000)] instPowNat

/-- The decimal number and a half unit, both multiplied by the same positive number that makes
them whole. -/
def scales (d : Decimal) : Nat × Nat :=
  (d.digits * 10 ^ d.exponent.toNat * 2 ^ (1075 : Nat), 10 ^ (-d.exponent).toNat)

/-- The comparison of a decimal number with a number of half units of `2 ^ (-1074)`. -/
def against (d : Decimal) : Nat → Ordering :=
  let (number, half) := d.scales
  fun halves => compare number (halves * half)

/-- From this place before the point on, a leading digit makes a number larger than every finite
float and its range. -/
def overflowPlace : Int := 310

/-- A leading digit at this place after the point makes a number too small for any float but
zero. -/
def underflowPlace : Int := -330

/-- The number of decimal digits of a natural number; zero has one. -/
def countDigits (n : Nat) : Nat := (Nat.toDigits 10 n).length

/-- The pattern of the float nearest to a decimal number, a tie going to the even one.  Numbers
far outside the range of floats are settled by the place of their leading digit. -/
def nearest (d : Decimal) : Nat :=
  let place : Int := d.exponent + countDigits d.digits
  if d.digits = 0 then 0
  else if overflowPlace < place then Binary64.infinityPattern
  else if place < underflowPlace then 0
  else Binary64.round d.against

/-- The comparison with half units is that of a real number. -/
theorem isReal_against (d : Decimal) : Binary64.IsReal d.against := by
  intro a b less notLess
  have positive : 0 < d.scales.2 := Nat.pow_pos (by decide)
  have grows : a * d.scales.2 < b * d.scales.2 := Nat.mul_lt_mul_of_pos_right less positive
  have upper : b * d.scales.2 ≤ d.scales.1 := by
    refine Nat.le_of_not_lt fun h => notLess ?_
    exact Nat.compare_eq_lt.2 h
  exact Nat.compare_eq_gt.2 (Nat.lt_of_lt_of_le grows upper)

end Decimal

end MultiDispatch
