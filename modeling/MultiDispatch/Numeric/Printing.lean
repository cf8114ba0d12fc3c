import MultiDispatch.Payload

set_option autoImplicit false
set_option relaxedAutoImplicit false

/-!
# Texts of numbers and vectors

A number is written in the shortest form that reads back.  It has an exponent if that is asked
for, if it lies outside the range in which every integer is a float, or if it is very small.  A
vector is written as its items in braces.

## Main definitions

* `MultiDispatch.Numeric.numberText` — the text of a number.
* `MultiDispatch.Numeric.vectorText` — the text of a vector.
-/

namespace MultiDispatch.Numeric

/-- The pattern of the largest number up to which every integer is a float, `2 ^ 53 - 1`. -/
def safePattern : Nat := Decimal.nearest ⟨9007199254740991, 0⟩

/-- The pattern of the smallest number that is written without an exponent, `10 ^ (-6)`. -/
def smallPattern : Nat := Decimal.nearest ⟨1, -6⟩

/-- Whether the size of a number calls for an exponent. -/
def needsExponent (bits : Nat) : Bool := safePattern < bits || bits < smallPattern

/-- The text of a number, with an exponent if that is asked for or called for. -/
def numberText (x : Float) (withExponent : Bool) : String :=
  String.ofList <|
    if Binary64.isNotANumber x then "NaN".toList
    else if Binary64.isInfinite x then
      if Binary64.isNegative x then "-Infinity".toList else "Infinity".toList
    else if Binary64.isZero x then if withExponent then "0e+0".toList else "0".toList
    else if withExponent || needsExponent (Binary64.pattern x) then Layout.scientific.render x
    else Layout.plain.render x

/-- The text of an item of a vector. -/
def itemText : Payload → String
  | .number x => numberText x false
  | item => item.display

/-- The text of a vector; a payload that is no list has its own text. -/
def vectorText (payload : Payload) : String :=
  match payload.toList? with
  | some items => "\x7b" ++ "; ".intercalate (items.map itemText) ++ "\x7d"
  | none => payload.display

end MultiDispatch.Numeric
