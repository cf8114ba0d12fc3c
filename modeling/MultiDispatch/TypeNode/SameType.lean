import MultiDispatch.TypeNode.Basic

set_option autoImplicit false
set_option relaxedAutoImplicit false

/-!
# Equality of types

Two nodes describe the same type if their templates do, their names agree and their parameters
do, whatever builds they come from.  Faces and rules take no part.  Parameters agree if they are
equal scalars, describe the same type, or are lists that agree item by item.

The Boolean equality `==` of nodes, parameters and lists of parameters is this relation, while
`=` is identity.

## Main definitions

* `MultiDispatch.TypeNode.sameType` — whether two nodes describe the same type.
* `MultiDispatch.Param.sameParams` — whether two lists of parameters agree.

## Main results

* `MultiDispatch.TypeNode.sameType_self` — a node describes the same type as itself.
-/

namespace MultiDispatch

variable {ρ : Role → Type} [∀ role, DecidableEq (ρ role)]

/-- Whether two parameters are equal integers, texts or truth values. -/
def Param.sameScalar : Param ρ → Param ρ → Bool
  | .integer m, .integer n => m == n
  | .string s, .string t => s == t
  | .boolean a, .boolean b => a == b
  | _, _ => false

mutual

/-- Whether two nodes describe the same type.  Identical nodes do, which is tested first. -/
def TypeNode.sameType : TypeNode ρ → TypeNode ρ → Bool
  | a@⟨_, name₁, template₁, params₁, _, _⟩, b@⟨_, name₂, template₂, params₂, _, _⟩ =>
    a.identical b ||
      (TypeNode.sameTemplates template₁ template₂ && name₁ == name₂ &&
        Param.sameParams params₁ params₂)

/-- Whether two optional templates are both absent or describe the same type. -/
def TypeNode.sameTemplates : Option (TypeNode ρ) → Option (TypeNode ρ) → Bool
  | none, none => true
  | some a, some b => a.sameType b
  | _, _ => false

/-- Whether two parameters of a pair of lists agree. -/
def Param.agrees : Param ρ → Param ρ → Bool
  | .type a, .type b => a.sameType b
  | .list as, .list bs => Param.sameParams as bs
  | a, b => a.sameScalar b

/-- Whether two lists of parameters have the same length and agree item by item. -/
def Param.sameParams : List (Param ρ) → List (Param ρ) → Bool
  | [], [] => true
  | a :: as, b :: bs => a.agrees b && Param.sameParams as bs
  | _, _ => false

end

instance : BEq (TypeNode ρ) := ⟨TypeNode.sameType⟩

/-- Two parameters are equal if they agree as lists of one. -/
instance : BEq (Param ρ) := ⟨fun a b => Param.sameParams [a] [b]⟩

/-- A node describes the same type as itself. -/
@[simp] theorem TypeNode.sameType_self (node : TypeNode ρ) : node.sameType node = true := by
  cases node
  simp [sameType]

end MultiDispatch
