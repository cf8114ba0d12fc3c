import MultiDispatch.Text.Printable

set_option autoImplicit false
set_option relaxedAutoImplicit false

/-!
# Quoted texts

A text between double quotes, the way diagnostics show it.  The double quote and the backslash
stand behind a backslash; newline, return, tab and the null character have a letter or digit of
their own; every other unprintable character is written by its code point, in lower-case
hexadecimal digits between braces.

## Main definitions

* `MultiDispatch.Text.hexadecimal` — a number in lower-case hexadecimal digits.
* `MultiDispatch.Text.escape` — how one character is written inside quotes.
* `MultiDispatch.Text.quote` — the quoted text.
-/

namespace MultiDispatch.Text

/-- A number in lower-case hexadecimal digits, without leading zeros. -/
def hexadecimal (n : Nat) : List Char := Nat.toDigits 16 n

/-- How a character is written inside double quotes. -/
def escape (c : Char) : List Char :=
  if c = '"' then ['\\', '"']
  else if c = '\\' then ['\\', '\\']
  else if c = '\n' then ['\\', 'n']
  else if c = '\r' then ['\\', 'r']
  else if c = '\t' then ['\\', 't']
  else if c = '\x00' then ['\\', '0']
  else if isPrintable c then [c]
  else ['\\', 'u', '\x7b'] ++ hexadecimal c.toNat ++ ['\x7d']

/-- The text between double quotes, each character escaped where it has to be. -/
def quote (text : String) : String :=
  String.ofList ('"' :: (text.toList.flatMap escape ++ ['"']))

end MultiDispatch.Text
