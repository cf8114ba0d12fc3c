import MultiDispatch.DispatchFault
import MultiDispatch.Implementation
import MultiDispatch.InsertionMap
import MultiDispatch.Signature

set_option autoImplicit false
set_option relaxedAutoImplicit false

/-!
# Dispatch tables

A dispatch table holds the implementations of one operation, each under a signature, in groups by
the number of slots.  A call takes the first implementation of its group whose signature accepts
the types of the arguments; what comes later in the group is not looked at, however well it fits.

## Main definitions

* `MultiDispatch.Overload` — an implementation under a signature.
* `MultiDispatch.DispatchTable` — overloads in groups by arity.
* `MultiDispatch.DispatchTable.add`, `ofOverloads` — puts overloads at the end of their groups.
* `MultiDispatch.DispatchTable.resolve`, `get`, `call` — the first that accepts the arguments.

## Main results

* `MultiDispatch.DispatchTable.overloads_add` — an addition shows in the group of its arity only.
-/

namespace MultiDispatch

variable {ρ : Role → Type}

/-- An implementation under a signature. -/
structure Overload (ρ : Role → Type) where
  signature : Signature ρ
  implementation : Implementation ρ

/-- The overloads of one operation, grouped by the number of slots. -/
structure DispatchTable (ρ : Role → Type) where
  groups : InsertionMap Nat (List (Overload ρ))

namespace DispatchTable

-- Sums are those of the core library, whatever else is imported.
attribute [local instance (2000)] Zero.ofOfNat0

/-- The table without overloads. -/
def empty : DispatchTable ρ := ⟨.empty⟩

/-- Puts an overload at the end of the group of its arity. -/
def addOverload (table : DispatchTable ρ) (overload : Overload ρ) : DispatchTable ρ :=
  ⟨table.groups.alter overload.signature.length fun group => group.getD [] ++ [overload]⟩

/-- Puts an implementation under a signature. -/
def add (table : DispatchTable ρ) (signature : Signature ρ)
    (implementation : Implementation ρ) : DispatchTable ρ :=
  table.addOverload ⟨signature, implementation⟩

/-- The table that a sequence of overloads makes of the empty one. -/
def ofOverloads (overloads : List (Overload ρ)) : DispatchTable ρ :=
  overloads.foldl addOverload .empty

/-- Puts a new implementation with these rules under a signature. -/
def addNew (table : DispatchTable ρ) (signature : Signature ρ) (resultType : ResultType ρ)
    (compute : List (Tagged ρ) → Except TypeFault Payload) : Fresh (DispatchTable ρ) := do
  return table.add signature (← Implementation.new resultType compute)

/-- The overloads for a number of arguments, in the order in which they are tried. -/
def overloads (table : DispatchTable ρ) (arity : Nat) : List (Overload ρ) :=
  (table.groups.get? arity).getD []

/-- The numbers of arguments with overloads, in order of first appearance. -/
def arities (table : DispatchTable ρ) : List Nat := table.groups.keys

/-- The number of overloads. -/
def size (table : DispatchTable ρ) : Nat := (table.groups.values.map List.length).sum

/-- Whether there are no overloads. -/
def isEmpty (table : DispatchTable ρ) : Bool := table.groups.isEmpty

section Resolution

variable [∀ role, DecidableEq (ρ role)]

/-- The first implementation whose signature accepts the arguments. -/
def resolve (table : DispatchTable ρ) (arguments : List (Param ρ)) :
    Option (Implementation ρ) :=
  ((table.overloads arguments.length).find? (·.signature.accepts arguments)).map
    (·.implementation)

/-- The first implementation whose signature accepts arguments of these types. -/
def get (table : DispatchTable ρ) (types : List (TypeNode ρ)) : Option (Implementation ρ) :=
  table.resolve (types.map .type)

/-- Finds the implementation by the types of the arguments and calls it. -/
def call (table : DispatchTable ρ) (arguments : List (Tagged ρ)) :
    Minting DispatchFault (Tagged ρ) :=
  let types := arguments.map (·.type)
  match table.get types with
  | some implementation => (implementation.call arguments).mapFault .type
  | none => throw (.noMatch (types.map TypeNode.display))

end Resolution

/-- An addition puts its overload at the end of the group of its arity and leaves every other
group as it is. -/
theorem overloads_add (table : DispatchTable ρ) (signature : Signature ρ)
    (implementation : Implementation ρ) (arity : Nat) :
    (table.add signature implementation).overloads arity =
      if signature.length = arity then table.overloads arity ++ [⟨signature, implementation⟩]
      else table.overloads arity := by
  simp only [overloads, add, addOverload, InsertionMap.get?_alter]
  split
  · next h => subst h; rfl
  · rfl

end DispatchTable

end MultiDispatch
