import MultiDispatch.Decimal.Basic

set_option autoImplicit false
set_option relaxedAutoImplicit false

/-!
# Shortest decimals

The decimal number with the fewest digits among those that round to a given float, and of those
with that many digits the nearest to the float.  Of two that are equally near the larger one is
taken.

The decimals with exponent `e` form a grid; the coarser the grid, the fewer the digits.  The
search goes from a coarse grid to finer ones and looks at the two points of each grid around the
float, because a grid with a point that rounds to the float has such a point next to it.

## Main definitions

* `MultiDispatch.Decimal.onGrid?` — the point of one grid that rounds to a float, if any.
* `MultiDispatch.Decimal.shortest` — the shortest decimal of a float.

## Main results

* `MultiDispatch.Decimal.roundsTo_of_onGrid?` — what a grid yields rounds to the float.
-/

namespace MultiDispatch.Decimal

-- Powers are those of the core library, whatever else is imported.
attribute [local instance (2000)] instPowNat

/-- The float of a positive finite pattern lies between two neighbouring points of the grid of
exponent `exponent`.  The result is the nearer one of those that round to the float; a tie goes
up. -/
def onGrid? (bits : Nat) (exponent : Int) : Option Decimal :=
  let value := Binary64.magnitude bits * 10 ^ (-exponent).toNat
  let step := 10 ^ exponent.toNat * 2 ^ (1074 : Nat)
  let below : Decimal := ⟨value / step, exponent⟩
  let above : Decimal := ⟨value / step + 1, exponent⟩
  let fits (d : Decimal) : Bool := Binary64.roundsTo d.against bits
  if fits below && (!fits above || 2 * (value % step) < step) then some below
  else if fits above then some above
  else none

/-- The exact value of a pattern as a decimal number. -/
def exact (bits : Nat) : Decimal := ⟨Binary64.magnitude bits * 5 ^ (1074 : Nat), -1074⟩

/-- The result of the first grid that has one, going from `exponent` down by `steps` grids. -/
def firstOnGrid (bits : Nat) : Nat → Int → Decimal
  | 0, _ => exact bits
  | steps + 1, exponent =>
    (onGrid? bits exponent).getD (firstOnGrid bits steps (exponent - 1))

/-- An exponent whose power of ten is larger than the value of a pattern: eight is less than ten
and ten is less than sixteen. -/
def startExponent (bits : Nat) : Int :=
  let binary : Int := (Binary64.magnitude bits).log2 + 1 - 1074
  if 0 ≤ binary then binary / 3 + 1 else -(-binary / 4) + 1

/-- The shortest decimal that rounds to the float of a positive finite pattern.  No grid below
`10 ^ (-1100)` is needed, since every float is a point of that grid. -/
def shortest (bits : Nat) : Decimal :=
  let start := startExponent bits
  firstOnGrid bits (start + 1100).toNat start

/-- What a grid yields rounds to the float. -/
theorem roundsTo_of_onGrid? {bits : Nat} {exponent : Int} {d : Decimal}
    (h : onGrid? bits exponent = some d) : Binary64.roundsTo d.against bits = true := by
  simp only [onGrid?] at h
  split at h
  · next fits =>
    simp only [Bool.and_eq_true] at fits
    exact Option.some.inj h ▸ fits.1
  · split at h
    · next fits => exact Option.some.inj h ▸ fits
    · cases h

end MultiDispatch.Decimal
