import MultiDispatch.Decimal.Basic

set_option autoImplicit false
set_option relaxedAutoImplicit false

/-!
# Decimal numerals

The written form of numbers: an optional sign, then digits with at most one point and at least
one digit on either side of it, then optionally an exponent, which is the letter `e` in either
case, an optional sign and at least one digit.  Instead of the digits there may be a name of
infinity or of the value that is not a number, in any case.  A numeral stands for the float
nearest to the number it denotes.

## Main definitions

* `MultiDispatch.Decimal.ofUnsigned?` — the number of an unsigned numeral.
* `MultiDispatch.Numeral.read` — the float of a numeral, or why there is none.
-/

namespace MultiDispatch

namespace Decimal

/-- The value of a sequence of decimal digits, zero if there are none. -/
def wholeNumber (digits : List Char) : Nat :=
  digits.foldl (fun n c => 10 * n + (c.toNat - '0'.toNat)) 0

/-- Splits an optional leading sign off; the result says whether the sign is a minus. -/
def splitSign : List Char → Bool × List Char
  | '-' :: rest => (true, rest)
  | '+' :: rest => (false, rest)
  | rest => (false, rest)

/-- The number denoted by an exponent together with its marker; no text at all denotes zero. -/
def exponent? : List Char → Option Int
  | [] => some 0
  | marker :: text =>
    let (negative, digits) := splitSign text
    if (marker = 'e' ∨ marker = 'E') ∧ digits ≠ [] ∧ digits.all Char.isDigit then
      some (if negative then -(wholeNumber digits : Int) else wholeNumber digits)
    else none

/-- The digits after the point and the text behind them; without a point there are none. -/
def splitFraction : List Char → List Char × List Char
  | '.' :: rest => rest.span Char.isDigit
  | rest => ([], rest)

/-- The number denoted by an unsigned numeral of digits. -/
def ofUnsigned? (text : List Char) : Option Decimal :=
  let (whole, rest) := text.span Char.isDigit
  let (fraction, rest) := splitFraction rest
  if whole = [] ∧ fraction = [] then none
  else (exponent? rest).map fun exponent =>
    ⟨wholeNumber (whole ++ fraction), exponent - fraction.length⟩

end Decimal

/-- Why a text is no numeral. -/
inductive NumeralFault
  /-- There is no text. -/
  | empty
  /-- The text is no numeral. -/
  | malformed
deriving DecidableEq, Repr

namespace Numeral

/-- The pattern named by a word for infinity or for the value that is not a number. -/
def namedPattern? (word : List Char) : Option Nat :=
  let word := word.map Char.toLower
  if word = "inf".toList ∨ word = "infinity".toList then some Binary64.infinityPattern
  else if word = "nan".toList then some (Binary64.pattern Binary64.notANumber)
  else none

/-- The pattern of an unsigned numeral. -/
def pattern? (text : List Char) : Option Nat :=
  match Decimal.ofUnsigned? text with
  | some d => some d.nearest
  | none => namedPattern? text

/-- The float of a numeral. -/
def read (text : List Char) : Except NumeralFault Float :=
  if text.isEmpty then .error .empty
  else
    let (negative, unsigned) := Decimal.splitSign text
    match pattern? unsigned with
    | some bits => .ok (Binary64.ofParts negative bits)
    | none => .error .malformed

end Numeral

end MultiDispatch
