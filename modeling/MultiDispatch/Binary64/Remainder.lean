import MultiDispatch.Binary64.Magnitude

set_option autoImplicit false
set_option relaxedAutoImplicit false

/-!
# The exact remainder

The remainder of a division whose quotient is cut off toward zero.  Both operands are whole
numbers of units, so the remainder is one too and is found exactly; no intermediate result is
rounded.

## Main definitions

* `MultiDispatch.Binary64.remainder` — the remainder, with the sign of the dividend.
-/

namespace MultiDispatch.Binary64

/-- The remainder of the truncating division of `x` by `y`, with the sign of `x`.  There is none
for an infinite dividend or a zero divisor; an infinite divisor leaves the dividend as it is. -/
def remainder (x y : Float) : Float :=
  if isNotANumber x || isNotANumber y || isInfinite x || isZero y then notANumber
  else if isInfinite y then x
  else ofParts (isNegative x) (ofMagnitude (magnitude (pattern x) % magnitude (pattern y)))

end MultiDispatch.Binary64
