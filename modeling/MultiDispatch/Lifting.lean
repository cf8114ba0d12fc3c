import MultiDispatch.Implementation

set_option autoImplicit false
set_option relaxedAutoImplicit false

/-!
# Lifting functions on payloads

Rules of implementations made from functions that know nothing about types.  The lifts look at as
many arguments as the function takes and fail if there are fewer; further arguments do not
matter.

## Main definitions

* `MultiDispatch.Lift.all`, `unary`, `binary` — rules for payloads from functions on payloads.
* `MultiDispatch.Lift.typeOfFirst`, `typeOfSecond` — rules for types: that of an argument.
* `MultiDispatch.Lift.numeric` — the rule of a function on one number.

## Main results

* `MultiDispatch.Lift.binary_append` — arguments behind the second do not matter.
-/

namespace MultiDispatch.Lift

variable {ρ : Role → Type}

/-- The names of the types of arguments, for reports. -/
def typeNames (arguments : List (Tagged ρ)) : List String := arguments.map (·.type.display)

/-- The rule of a function on all payloads. -/
def all (function : List Payload → Except TypeFault Payload) (arguments : List (Tagged ρ)) :
    Except TypeFault Payload :=
  function (arguments.map (·.payload))

/-- The rule of a function on one payload. -/
def unary (function : Payload → Except TypeFault Payload) :
    List (Tagged ρ) → Except TypeFault Payload
  | argument :: _ => function argument.payload
  | [] => .error (.invalidOperand "unary operator" [])

/-- The rule of a function on two payloads. -/
def binary (function : Payload → Payload → Except TypeFault Payload) :
    List (Tagged ρ) → Except TypeFault Payload
  | first :: second :: _ => function first.payload second.payload
  | arguments => .error (.invalidOperand "binary operator" (typeNames arguments))

/-- The type of the first argument. -/
def typeOfFirst : List (Tagged ρ) → Minting TypeFault (TypeNode ρ)
  | first :: _ => return first.type
  | [] => throw (.invalidOperand "same_type" [])

/-- The type of the second argument. -/
def typeOfSecond : List (Tagged ρ) → Minting TypeFault (TypeNode ρ)
  | _ :: second :: _ => return second.type
  | arguments => throw (.invalidOperand "second_type" (typeNames arguments))

/-- The function on payloads that a function on numbers gives, failing as `operation`. -/
def onNumber (operation : String) (function : Float → Float) (payload : Payload) :
    Except TypeFault Payload :=
  match payload.toFloat? with
  | some x => .ok (.number (function x))
  | none => .error (.invalidOperand operation [payload.kind])

/-- The function on two payloads that a function on two numbers gives, failing as
`operation`. -/
def onNumbers (operation : String) (function : Float → Float → Float) (a b : Payload) :
    Except TypeFault Payload :=
  match a.toFloat?, b.toFloat? with
  | some x, some y => .ok (.number (function x y))
  | _, _ => .error (.invalidOperand operation [a.kind, b.kind])

/-- A new implementation of a function on one number, with the type of its argument. -/
def numeric (function : Float → Float) : Fresh (Implementation ρ) :=
  Implementation.new (.computed typeOfFirst) (unary (onNumber "math1" function))

/-- Arguments behind the second do not matter to the rule of a function on two payloads. -/
theorem binary_append (function : Payload → Payload → Except TypeFault Payload)
    (first second : Tagged ρ) (rest : List (Tagged ρ)) :
    binary function (first :: second :: rest) = binary function [first, second] := rfl

end MultiDispatch.Lift
