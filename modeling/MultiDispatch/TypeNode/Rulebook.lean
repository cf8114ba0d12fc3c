import MultiDispatch.Payload
import MultiDispatch.TypeNode.Draft
import MultiDispatch.TypeNode.SameType

set_option autoImplicit false
set_option relaxedAutoImplicit false

/-!
# Rules of types

A rulebook says what the rules named in nodes do.  With it a node can read literals, build
payloads from data, write payloads and build specializations of itself.

## Main definitions

* `MultiDispatch.Interprets`, `MultiDispatch.Rulebook` — the meaning of rule names.
* `MultiDispatch.TypeNode.parse`, `create`, `stringify` — the rules of a node at work.
* `MultiDispatch.TypeNode.derivesFrom` — what every specialization has to satisfy.
* `MultiDispatch.TypeNode.specialize` — the specialization of a generic node, checked.
-/

namespace MultiDispatch

/-- The meaning of the rule names `σ` for nodes whose rule names are `ρ`. -/
class Interprets (σ ρ : Role → Type) where
  /-- Reads a literal, given options of the type. -/
  parse : σ .parse → String → List (Param ρ) → Except ReadingFault Payload
  /-- Builds a payload from raw data. -/
  create : σ .create → List Payload → Payload
  /-- Writes a payload, given options of the type. -/
  stringify : σ .stringify → Payload → List (Param ρ) → String
  /-- Builds a specialization of a node. -/
  specialize : σ .specialize → TypeNode ρ → List (Param ρ) → Minting TypeFault (TypeNode ρ)

/-- A rulebook gives the rule names in nodes their meaning. -/
abbrev Rulebook (ρ : Role → Type) := Interprets ρ ρ

namespace TypeNode

variable {ρ : Role → Type}

/-- The fault of a node that has no rule for a role. -/
def missing (node : TypeNode ρ) (role : Role) : TypeFault :=
  .configuration (.missingRule node.display role)

section Values

variable [Rulebook ρ]

/-- The payload of a literal, by the rule of the node. -/
def parse (node : TypeNode ρ) (source : String) (options : List (Param ρ)) :
    Except TypeFault Payload :=
  match node.interface.parse with
  | some rule => (Interprets.parse rule source options).mapError .reading
  | none => .error (node.missing .parse)

/-- The payload built from raw data, by the rule of the node. -/
def create (node : TypeNode ρ) (data : List Payload) : Except TypeFault Payload :=
  match node.interface.create with
  | some rule => .ok (Interprets.create ρ rule data)
  | none => .error (node.missing .create)

/-- The text of a payload, by the rule of the node; without one it is the payload's own. -/
def stringify (node : TypeNode ρ) (payload : Payload) (options : List (Param ρ)) : String :=
  match node.interface.stringify with
  | some rule => Interprets.stringify rule payload options
  | none => payload.display

end Values

section Specializations

variable [∀ role, DecidableEq (ρ role)]

/-- Whether a node derives from a generic one: the generic node is its template and one of its
faces, each up to the type described. -/
def derivesFrom (node generic : TypeNode ρ) : Bool :=
  node.template.any (·.sameType generic) && node.faces.any (·.sameType generic)

/-- The specialization of a generic node, built by its rule and checked to derive from it. -/
def specialize [Rulebook ρ] (generic : TypeNode ρ) (params : List (Param ρ)) :
    Minting TypeFault (TypeNode ρ) :=
  match generic.interface.specialize with
  | none => throw (.configuration (.notGeneric generic.display))
  | some rule => do
    let specialized ← Interprets.specialize rule generic params
    if specialized.derivesFrom generic then return specialized
    else throw (.configuration (.notDerived generic.display specialized.display))

end Specializations

end TypeNode

end MultiDispatch
