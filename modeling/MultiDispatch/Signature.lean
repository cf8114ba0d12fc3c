import MultiDispatch.TypeNode.Display
import MultiDispatch.TypeNode.Lineage

set_option autoImplicit false
set_option relaxedAutoImplicit false

/-!
# Signatures

A signature constrains a list of arguments, one slot for each.  A type in a slot asks for an
argument that implements it; a list of types asks for one that implements any of them; a scalar
asks for an equal scalar, a list of scalars for one of them; and a list argument has to satisfy a
list slot item by item.

## Main definitions

* `MultiDispatch.Param.satisfies` — whether an argument satisfies a slot.
* `MultiDispatch.Param.allSatisfy` — whether arguments satisfy slots, one by one.
* `MultiDispatch.Signature` — a list of slots.

## Main results

* `MultiDispatch.Signature.length_of_accepts` — accepted arguments are as many as the slots.
-/

namespace MultiDispatch

variable {ρ : Role → Type}

section Matching

variable [∀ role, DecidableEq (ρ role)]

/-- Whether a type satisfies one alternative of a slot; only types are alternatives for it. -/
def Param.offersType (argument : TypeNode ρ) : Param ρ → Bool
  | .type face => argument.implements face
  | _ => false

mutual

/-- Whether an argument satisfies a slot. -/
def Param.satisfies : Param ρ → Param ρ → Bool
  | .type argument, .type face => argument.implements face
  | .type argument, .list options => options.any (Param.offersType argument)
  | .type _, _ => false
  | .list items, .list slots => Param.allSatisfy items slots
  | .list _, _ => false
  | argument, .list options => options.any argument.sameScalar
  | argument, slot => argument.sameScalar slot

/-- Whether arguments are as many as slots and satisfy them one by one. -/
def Param.allSatisfy : List (Param ρ) → List (Param ρ) → Bool
  | [], [] => true
  | argument :: arguments, slot :: slots =>
    argument.satisfies slot && Param.allSatisfy arguments slots
  | _, _ => false

end

/-- Arguments that satisfy slots are as many. -/
theorem Param.length_of_allSatisfy {arguments slots : List (Param ρ)}
    (h : Param.allSatisfy arguments slots = true) : arguments.length = slots.length := by
  induction arguments generalizing slots with
  | nil =>
    cases slots with
    | nil => rfl
    | cons slot slots => simp [allSatisfy] at h
  | cons argument arguments ih =>
    cases slots with
    | nil => simp [allSatisfy] at h
    | cons slot slots =>
      simp only [allSatisfy, Bool.and_eq_true] at h
      rw [List.length_cons, List.length_cons, ih h.2]

end Matching

/-- The constraints on a list of arguments. -/
structure Signature (ρ : Role → Type) where
  /-- One slot for each argument. -/
  slots : List (Param ρ)

namespace Signature

/-- The signature with a type in each slot. -/
def ofTypes (types : List (TypeNode ρ)) : Signature ρ := ⟨types.map .type⟩

/-- The number of slots. -/
def length (signature : Signature ρ) : Nat := signature.slots.length

/-- Whether there are no slots. -/
def isEmpty (signature : Signature ρ) : Bool := signature.slots.isEmpty

/-- The text of a signature: its slots in parentheses. -/
def display (signature : Signature ρ) : String :=
  "(" ++ ", ".intercalate (signature.slots.map Param.display) ++ ")"

instance : ToString (Signature ρ) := ⟨display⟩

variable [∀ role, DecidableEq (ρ role)]

/-- Two signatures are equal if their slots are. -/
instance : BEq (Signature ρ) := ⟨fun a b => a.slots == b.slots⟩

/-- Whether arguments satisfy every slot. -/
def accepts (signature : Signature ρ) (arguments : List (Param ρ)) : Bool :=
  Param.allSatisfy arguments signature.slots

/-- Accepted arguments are as many as the slots. -/
theorem length_of_accepts {signature : Signature ρ} {arguments : List (Param ρ)}
    (h : signature.accepts arguments = true) : arguments.length = signature.length :=
  Param.length_of_allSatisfy h

end Signature

end MultiDispatch
