import MultiDispatch.Decimal.Shortest

set_option autoImplicit false
set_option relaxedAutoImplicit false

/-!
# Layouts of numbers

A float is written with the digits of its shortest decimal, either with the point in its place or
with the point behind the first digit and an exponent.  A layout says which of the two is taken
and how the pieces look.

## Main definitions

* `MultiDispatch.Layout` — the decisions of one way to write numbers.
* `MultiDispatch.Layout.render` — a float in a layout.
* `MultiDispatch.Layout.plain`, `inspected`, `scientific` — the layouts in use.
-/

namespace MultiDispatch

namespace Decimal

/-- The decimal digits of a natural number. -/
def digitsOf (n : Nat) : List Char := Nat.toDigits 10 n

/-- A number of zeros. -/
def zeros (count : Nat) : List Char := List.replicate count '0'

/-- The digits with the point in its place: `whole` digits stand before it, and zeros fill the
places between the point and the digits. -/
def placePoint (digits : List Char) (whole : Int) : List Char × List Char :=
  if whole ≤ 0 then (['0'], zeros (-whole).toNat ++ digits)
  else (digits.take whole.toNat ++ zeros (whole.toNat - digits.length), digits.drop whole.toNat)

/-- The exponent of the leading digit. -/
def leadingExponent (d : Decimal) : Int := d.exponent + (digitsOf d.digits).length - 1

end Decimal

/-- How numbers are written. -/
structure Layout where
  /-- Whether a number whose leading digit has this exponent is written with an exponent. -/
  usesExponent : Int → Bool
  /-- What is written for a whole number where the fraction would be. -/
  emptyFraction : List Char
  /-- What is written in front of an exponent that is not negative. -/
  exponentSign : List Char
  /-- The word for infinity. -/
  infinity : List Char

namespace Layout

open Decimal

/-- An exponent with its sign. -/
def exponentText (layout : Layout) (exponent : Int) : List Char :=
  if exponent < 0 then '-' :: digitsOf exponent.natAbs
  else layout.exponentSign ++ digitsOf exponent.natAbs

/-- A positive decimal with the point behind the first digit and an exponent. -/
def withExponent (layout : Layout) (d : Decimal) : List Char :=
  let digits := digitsOf d.digits
  let fraction := if digits.length = 1 then [] else '.' :: digits.drop 1
  digits.take 1 ++ fraction ++ 'e' :: layout.exponentText d.leadingExponent

/-- A decimal with the point in its place. -/
def positional (layout : Layout) (d : Decimal) : List Char :=
  let (whole, fraction) := placePoint (digitsOf d.digits) (d.leadingExponent + 1)
  whole ++ if fraction.isEmpty then layout.emptyFraction else '.' :: fraction

/-- A positive decimal in a layout. -/
def decimal (layout : Layout) (d : Decimal) : List Char :=
  if layout.usesExponent d.leadingExponent then layout.withExponent d else layout.positional d

/-- The absolute value of a float in a layout. -/
def unsigned (layout : Layout) (bits : Nat) : List Char :=
  if bits = Binary64.infinityPattern then layout.infinity
  else if bits = 0 then layout.positional ⟨0, 0⟩
  else layout.decimal (shortest bits)

/-- A float in a layout. -/
def render (layout : Layout) (x : Float) : List Char :=
  if Binary64.isNotANumber x then "NaN".toList
  else if Binary64.isNegative x then '-' :: layout.unsigned (Binary64.pattern x)
  else layout.unsigned (Binary64.pattern x)

/-! ## Layouts in use -/

/-- The layout of displayed values: the point is always in its place and a whole number has no
fraction. -/
def plain : Layout := ⟨fun _ => false, [], [], "inf".toList⟩

/-- The layout of inspected values: an exponent for magnitudes below `10 ^ (-4)` and from
`10 ^ 16` on, and a zero after the point of a whole number. -/
def inspected : Layout := ⟨fun e => e < -4 || 16 ≤ e, ".0".toList, [], "inf".toList⟩

/-- The layout with an exponent in every number but zero, its sign always written. -/
def scientific : Layout := ⟨fun _ => true, [], ['+'], "inf".toList⟩

end Layout

end MultiDispatch
