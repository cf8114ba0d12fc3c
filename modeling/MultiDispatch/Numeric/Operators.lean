import MultiDispatch.Binary64.Remainder
import MultiDispatch.Lifting
import MultiDispatch.Numeric.Types
import MultiDispatch.Registry

set_option autoImplicit false
set_option relaxedAutoImplicit false

/-!
# Operators on numbers and vectors

The arithmetic operators on numbers, those on vectors, and the registry of all of them under
their symbols.  Except for products with a vector, a result has the type of the first argument.

## Main definitions

* `MultiDispatch.Numeric.add`, `sub`, `mul`, `div`, `modulo`, `pow`, `neg` — operators on numbers.
* `MultiDispatch.Numeric.pointwise`, `dotProduct`, `scale` — operators on vectors.
* `MultiDispatch.Numeric.standardRegistry` — all operators.
-/

namespace MultiDispatch.Numeric

/-! ## Numbers -/

section Numbers

variable {ρ : Role → Type}

/-- The implementation of a function on two numbers. -/
def binaryOperator (serial : Serial) (operation : String) (function : Float → Float → Float) :
    Implementation ρ :=
  ⟨serial, .computed Lift.typeOfFirst, Lift.binary (Lift.onNumbers operation function)⟩

/-- The sum of two numbers. -/
def add : Implementation ρ := binaryOperator 0 "+" (· + ·)

/-- The difference of two numbers. -/
def sub : Implementation ρ := binaryOperator 1 "-" (· - ·)

/-- The product of two numbers. -/
def mul : Implementation ρ := binaryOperator 2 "*" (· * ·)

/-- The quotient of two numbers. -/
def div : Implementation ρ := binaryOperator 3 "/" (· / ·)

/-- The remainder of two numbers, with the sign of the dividend. -/
def modulo : Implementation ρ := binaryOperator 4 "%" Binary64.remainder

/-- A number to the power of another. -/
def pow : Implementation ρ := binaryOperator 5 "^" Float.pow

/-- The negation of a number. -/
def neg : Implementation ρ :=
  ⟨6, .computed Lift.typeOfFirst, Lift.unary (Lift.onNumber "-" (-·))⟩

end Numbers

/-- The first serial number not in use by the types and operators of this library. -/
def firstSerial : Serial := 7

/-! ## Vectors -/

/-- The numbers in the payload of a vector, each by its numeric coercion. -/
def numbers (operation : String) (payload : Payload) : Except TypeFault (List Float) :=
  match payload.toList?.bind fun items => items.mapM Payload.toFloat? with
  | some xs => .ok xs
  | none => .error (.invalidOperand operation [payload.kind])

/-- The name of a list of a length, for reports. -/
def listName (length : Nat) : String := "List(" ++ toString length ++ ")"

/-- The numbers in two vectors of the same length. -/
def numberPairs (operation : String) (a b : Payload) : Except TypeFault (List (Float × Float)) :=
  match numbers operation a, numbers operation b with
  | .error fault, _ => .error fault
  | _, .error fault => .error fault
  | .ok xs, .ok ys =>
    if xs.length = ys.length then .ok (xs.zip ys)
    else .error (.invalidOperand operation [listName xs.length, listName ys.length])

/-- The vector of the results of a function on the items of two vectors. -/
def pointwise (operation : String) (function : Float → Float → Float) (a b : Payload) :
    Except TypeFault Payload :=
  (numberPairs operation a b).map fun pairs =>
    .list (pairs.map fun pair => .number (function pair.1 pair.2))

/-- The sum of the products of the items of two vectors, from left to right, starting at
negative zero, which is neutral for the addition of floats. -/
def dotProduct (operation : String) (a b : Payload) : Except TypeFault Payload :=
  (numberPairs operation a b).map fun pairs =>
    .number (pairs.foldl (fun sum pair => sum + pair.1 * pair.2) (-0.0))

/-- The vector with every item multiplied by a factor; the factor is looked at first. -/
def scale (operation : String) (vector factor : Payload) : Except TypeFault Payload :=
  match factor.toFloat? with
  | none => .error (.invalidOperand operation [factor.kind])
  | some k => (numbers operation vector).map fun xs => .list (xs.map fun x => .number (x * k))

section Vectors

variable {ρ : Role → Type}

/-- The rule of scaling the first argument by the second. -/
def scaleFirst : List (Tagged ρ) → Except TypeFault Payload
  | vector :: factor :: _ => scale "*" vector.payload factor.payload
  | arguments => .error (.invalidOperand "*" (Lift.typeNames arguments))

/-- The rule of scaling the second argument by the first. -/
def scaleSecond : List (Tagged ρ) → Except TypeFault Payload
  | factor :: vector :: _ => scale "*" vector.payload factor.payload
  | arguments => .error (.invalidOperand "*" (Lift.typeNames arguments))

end Vectors

/-! ## The registry -/

variable {υ : Role → Type}

/-- The registrations of the operators, given serial numbers for those on vectors. -/
def standardEntries (first : Serial) : List (Registry.Entry (NumericRule υ)) :=
  let onNumbers := Signature.ofTypes [number, number]
  let onVectors := Signature.ofTypes [vector, vector]
  [⟨"+", onNumbers, add⟩,
    ⟨"-", onNumbers, sub⟩,
    ⟨"*", onNumbers, mul⟩,
    ⟨"/", onNumbers, div⟩,
    ⟨"%", onNumbers, modulo⟩,
    ⟨"^", onNumbers, pow⟩,
    ⟨"-", .ofTypes [number], neg⟩,
    ⟨"+", onVectors,
      ⟨first, .computed Lift.typeOfFirst, Lift.binary (pointwise "+" (· + ·))⟩⟩,
    ⟨"-", onVectors,
      ⟨first + 1, .computed Lift.typeOfFirst, Lift.binary (pointwise "-" (· - ·))⟩⟩,
    ⟨"*", onVectors, ⟨first + 2, .constant number, Lift.binary (dotProduct "*")⟩⟩,
    ⟨"*", .ofTypes [vector, number], ⟨first + 3, .computed Lift.typeOfFirst, scaleFirst⟩⟩,
    ⟨"*", .ofTypes [number, vector], ⟨first + 4, .computed Lift.typeOfSecond, scaleSecond⟩⟩]

/-- The registry of the arithmetic operators.  Those on vectors are new in every registry. -/
def standardRegistry : Fresh (Registry (NumericRule υ)) :=
  modifyGet fun first => (.ofEntries (standardEntries first), first + 5)

end MultiDispatch.Numeric
