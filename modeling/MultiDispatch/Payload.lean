import MultiDispatch.Decimal.Layout
import MultiDispatch.Decimal.Numeral
import MultiDispatch.Text.Blank
import MultiDispatch.Text.Quoted

set_option autoImplicit false
set_option relaxedAutoImplicit false

/-!
# Payloads

A payload is the data inside a typed value.  It knows nothing about the type that owns it; it
offers its kind, its conversions and its texts.

## Main definitions

* `MultiDispatch.Payload` — numbers, integers, truth values, texts, lists and the unit.
* `MultiDispatch.Payload.same` — equality as numbers compare: `0 = -0`, and a value that is not
  a number differs from itself.
* `MultiDispatch.Payload.toFloat?` — the numeric coercion.
* `MultiDispatch.Payload.display`, `inspect` — the text for users and the text for diagnostics.
-/

namespace MultiDispatch

/-- The data inside a typed value. -/
inductive Payload where
  /-- A 64-bit floating-point number. -/
  | number (x : Float)
  /-- A signed 64-bit integer. -/
  | integer (n : Int64)
  /-- A truth value. -/
  | boolean (b : Bool)
  /-- A text. -/
  | string (s : String)
  /-- An ordered list of payloads. -/
  | list (items : List Payload)
  /-- Nothing of interest. -/
  | unit

namespace Payload

/-- The name of the kind of a payload. -/
def kind : Payload → String
  | number _ => "Number"
  | integer _ => "Integer"
  | boolean _ => "Boolean"
  | string _ => "String"
  | list _ => "List"
  | unit => "Unit"

/-! ## Equality -/

mutual

/-- Whether two payloads are equal, numbers compared as numbers. -/
def same : Payload → Payload → Bool
  | number x, number y => x == y
  | integer m, integer n => m == n
  | boolean a, boolean b => a == b
  | string s, string t => s == t
  | list xs, list ys => sameItems xs ys
  | unit, unit => true
  | _, _ => false

/-- Whether two lists of payloads are equal item by item. -/
def sameItems : List Payload → List Payload → Bool
  | [], [] => true
  | x :: xs, y :: ys => same x y && sameItems xs ys
  | _, _ => false

end

instance : BEq Payload := ⟨same⟩

/-! ## Conversions -/

/-- The numeric coercion: integers are rounded to the nearest float, truth values are one and
zero, and a text is read as a numeral without the blanks around it. -/
def toFloat? : Payload → Option Float
  | number x => some x
  | integer n => some n.toFloat
  | boolean b => some (if b then 1.0 else 0.0)
  | string s => (Numeral.read (Text.trimBlank s.toList)).toOption
  | list _ => none
  | unit => none

/-- The integer, if the payload is one. -/
def toInteger? : Payload → Option Int64
  | integer n => some n
  | _ => none

/-- The text, if the payload is one. -/
def toString? : Payload → Option String
  | string s => some s
  | _ => none

/-- The items, if the payload is a list. -/
def toList? : Payload → Option (List Payload)
  | list items => some items
  | _ => none

/-! ## Texts -/

mutual

/-- The text of a payload for users. -/
def display : Payload → String
  | number x => String.ofList (Layout.plain.render x)
  | integer n => toString n.toInt
  | boolean b => if b then "true" else "false"
  | string s => s
  | list items => "[" ++ ", ".intercalate (displayItems items) ++ "]"
  | unit => "unit"

/-- The texts of payloads for users. -/
def displayItems : List Payload → List String
  | [] => []
  | item :: items => display item :: displayItems items

end

mutual

/-- The text of a payload for diagnostics: its kind with its content in parentheses. -/
def inspect : Payload → String
  | number x => "Number(" ++ String.ofList (Layout.inspected.render x) ++ ")"
  | integer n => "Integer(" ++ toString n.toInt ++ ")"
  | boolean b => "Boolean(" ++ (if b then "true" else "false") ++ ")"
  | string s => "String(" ++ Text.quote s ++ ")"
  | list items => "List([" ++ ", ".intercalate (inspectItems items) ++ "])"
  | unit => "Unit"

/-- The texts of payloads for diagnostics. -/
def inspectItems : List Payload → List String
  | [] => []
  | item :: items => inspect item :: inspectItems items

end

end Payload

end MultiDispatch
