import MultiDispatch.Decimal.Numeral
import MultiDispatch.Fault
import MultiDispatch.Text.Blank

set_option autoImplicit false
set_option relaxedAutoImplicit false

/-!
# Number literals

Number literals are decimal numerals with a few liberties: blanks around them do not count, the
digits before a leading point may be missing even if there are none behind it, and an exponent
that was begun but has no digits is dropped.  Names of infinity and the like are no literals.

## Main definitions

* `MultiDispatch.NumberLiteral.normalize` — a literal without blanks, in lower case, with a digit
  in front of a leading point.
* `MultiDispatch.NumberLiteral.numeral` — the literal without an unfinished exponent.
* `MultiDispatch.NumberLiteral.read` — the number of a literal.
-/

namespace MultiDispatch.NumberLiteral

/-- Puts a zero in front of a leading point. -/
def completePoint : List Char → List Char
  | '.' :: rest => '0' :: '.' :: rest
  | text => text

/-- A text without the blanks around it and in lower case, with a digit before a leading point.
The case of letters outside ASCII does not matter, since none of them is part of a literal and
none has a lower-case form that is. -/
def normalize (text : List Char) : List Char :=
  completePoint ((Text.trimBlank text).map Char.toLower)

/-- Whether an exponent, without its marker, was begun but has no digits. -/
def isDangling (exponent : List Char) : Bool :=
  [[], ['+'], ['-'], ['+', '-']].contains exponent

/-- The numeral of a literal: an unfinished exponent is dropped, and there is no second one. -/
def numeral (text : List Char) : Except LiteralFault (List Char) :=
  match text.span (· ≠ 'e') with
  | (mantissa, []) => .ok mantissa
  | (mantissa, _ :: exponent) =>
    if exponent.contains 'e' then .error .repeatedExponent
    else if isDangling exponent then .ok mantissa
    else .ok text

/-- The characters of literals in lower case. -/
def isLiteralChar (c : Char) : Bool := c.isDigit || c = '.' || c = 'e' || c = '+' || c = '-'

/-- The number of a text, or why it is no literal. -/
def number (text : List Char) : Except LiteralFault Float :=
  if (Text.trimBlank text).isEmpty then .error .empty
  else
    match numeral (normalize text) with
    | .error fault => .error fault
    | .ok digits =>
      if digits.all isLiteralChar then
        match Numeral.read digits with
        | .ok x => .ok x
        | .error _ => .error .notDecimal
      else .error .strayCharacter

/-- The number of a literal; a fault reports the text as it was given. -/
def read (source : String) : Except ReadingFault Float :=
  (number source.toList).mapError (.invalidNumber source)

end MultiDispatch.NumberLiteral
