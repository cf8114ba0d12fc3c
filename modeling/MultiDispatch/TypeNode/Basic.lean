import MultiDispatch.Fault
import MultiDispatch.Serial

set_option autoImplicit false
set_option relaxedAutoImplicit false

/-!
# Type nodes

A type node describes a type at run time: a name, or a template that it specializes with
parameters; the types whose interface it supports, called its faces; and the rules it has for
reading, building and writing values and for building specializations.  Nodes are immutable and
refer only to nodes built before them, so a node together with all it refers to is a finite tree
and the faces form a directed graph without cycles.

The rules of a node are names; what they do is said elsewhere, so nodes are plain data.  The
names are a family `ρ` with one type for each role.

Two different relations compare nodes.  This module has identity: nodes are identical if they
come from the same build, which is equality `a = b`, because every build has a serial number of
its own.  Whether two nodes describe the same type is a weaker relation, defined separately.

## Main definitions

* `MultiDispatch.Interface` — the rules of a node, and whether it is abstract.
* `MultiDispatch.TypeNode`, `MultiDispatch.Param` — nodes and their parameters.
* `MultiDispatch.TypeNode.identical` — the test for identity.

## Main results

* `MultiDispatch.TypeNode.identical_iff` — the test decides equality.
-/

namespace MultiDispatch

/-- Whether a type is abstract, and the names of its rules, with one type of names for each
role. -/
structure Interface (ρ : Role → Type) where
  /-- Whether the type is abstract: such a type need not be able to make values. -/
  isAbstract : Bool := false
  /-- The rule that reads a literal. -/
  parse : Option (ρ .parse) := none
  /-- The rule that builds a payload from raw data. -/
  create : Option (ρ .create) := none
  /-- The rule that writes a payload. -/
  stringify : Option (ρ .stringify) := none
  /-- The rule that builds a specialization. -/
  specialize : Option (ρ .specialize) := none

mutual

/-- The description of a type. -/
structure TypeNode (ρ : Role → Type) where
  /-- The number of the build that made the node. -/
  serial : Serial
  /-- The name, if the node has one. -/
  name : Option String
  /-- The generic node that this one specializes. -/
  template : Option (TypeNode ρ)
  /-- The parameters of the specialization. -/
  params : List (Param ρ)
  /-- The nodes whose interface this one supports, in the order declared. -/
  faces : List (TypeNode ρ)
  /-- The rules, and whether the node is abstract. -/
  interface : Interface ρ

/-- A parameter of a specialization, or one slot of a list of constraints. -/
inductive Param (ρ : Role → Type) where
  /-- A type. -/
  | type (node : TypeNode ρ)
  /-- A signed 64-bit integer. -/
  | integer (n : Int64)
  /-- A text. -/
  | string (s : String)
  /-- A truth value. -/
  | boolean (b : Bool)
  /-- A list of parameters. -/
  | list (items : List (Param ρ))

end

variable {ρ : Role → Type}

namespace Param

/-- The type, if the parameter is one. -/
def toType? : Param ρ → Option (TypeNode ρ)
  | type node => some node
  | _ => none

/-- The integer, if the parameter is one. -/
def toInteger? : Param ρ → Option Int64
  | integer n => some n
  | _ => none

/-- The text, if the parameter is one. -/
def toString? : Param ρ → Option String
  | string s => some s
  | _ => none

/-- The truth value, if the parameter is one. -/
def toBool? : Param ρ → Option Bool
  | boolean b => some b
  | _ => none

/-- The items, if the parameter is a list. -/
def toList? : Param ρ → Option (List (Param ρ))
  | list items => some items
  | _ => none

end Param

/-- Whether a node can be specialized. -/
def TypeNode.isGeneric (node : TypeNode ρ) : Bool := node.interface.specialize.isSome

/-! ## Identity -/

section Identity

variable [∀ role, DecidableEq (ρ role)]

/-- Interfaces are equal if they agree on every rule. -/
instance : DecidableEq (Interface ρ) := fun a b =>
  decidable_of_iff (a.isAbstract = b.isAbstract ∧ a.parse = b.parse ∧ a.create = b.create ∧
      a.stringify = b.stringify ∧ a.specialize = b.specialize) (by
    cases a; cases b; simp)

mutual

/-- Decides equality of nodes.  Nodes that are shared in memory are equal, and nodes of different
builds differ in their serial number, so the descriptions below are hardly ever compared. -/
def TypeNode.decideEq (a b : TypeNode ρ) : Decidable (a = b) :=
  withPtrEqDecEq a b fun _ =>
    match a, b with
    | ⟨serial₁, name₁, template₁, params₁, faces₁, interface₁⟩,
      ⟨serial₂, name₂, template₂, params₂, faces₂, interface₂⟩ =>
      if shallow : serial₁ = serial₂ ∧ name₁ = name₂ ∧ interface₁ = interface₂ then
        match TypeNode.decideEqTemplates template₁ template₂, Param.decideEqAll params₁ params₂,
          TypeNode.decideEqAll faces₁ faces₂ with
        | .isTrue h₁, .isTrue h₂, .isTrue h₃ => .isTrue (by simp [shallow, h₁, h₂, h₃])
        | .isFalse h, _, _ => .isFalse (by simp [h])
        | _, .isFalse h, _ => .isFalse (by simp [h])
        | _, _, .isFalse h => .isFalse (by simp [h])
      else .isFalse (by
        intro same
        injection same with h₁ h₂ _ _ _ h₃
        exact shallow ⟨h₁, h₂, h₃⟩)

/-- Decides equality of templates. -/
def TypeNode.decideEqTemplates : (a b : Option (TypeNode ρ)) → Decidable (a = b)
  | none, none => .isTrue rfl
  | some a, some b =>
    match a.decideEq b with
    | .isTrue h => .isTrue (by simp [h])
    | .isFalse h => .isFalse (by simp [h])
  | none, some _ => .isFalse (by simp)
  | some _, none => .isFalse (by simp)

/-- Decides equality of lists of nodes. -/
def TypeNode.decideEqAll : (a b : List (TypeNode ρ)) → Decidable (a = b)
  | [], [] => .isTrue rfl
  | a :: as, b :: bs =>
    match a.decideEq b with
    | .isFalse h => .isFalse (by simp [h])
    | .isTrue h =>
      match TypeNode.decideEqAll as bs with
      | .isTrue h' => .isTrue (by simp [h, h'])
      | .isFalse h' => .isFalse (by simp [h'])
  | [], _ :: _ => .isFalse (by simp)
  | _ :: _, [] => .isFalse (by simp)

/-- Decides equality of parameters. -/
def Param.decideEq : (a b : Param ρ) → Decidable (a = b)
  | .type a, .type b =>
    match a.decideEq b with
    | .isTrue h => .isTrue (by simp [h])
    | .isFalse h => .isFalse (by simp [h])
  | .list a, .list b =>
    match Param.decideEqAll a b with
    | .isTrue h => .isTrue (by simp [h])
    | .isFalse h => .isFalse (by simp [h])
  | .integer a, .integer b => decidable_of_iff (a = b) (by simp)
  | .string a, .string b => decidable_of_iff (a = b) (by simp)
  | .boolean a, .boolean b => decidable_of_iff (a = b) (by simp)
  | .type _, .integer _ | .type _, .string _ | .type _, .boolean _ | .type _, .list _
  | .integer _, .type _ | .integer _, .string _ | .integer _, .boolean _ | .integer _, .list _
  | .string _, .type _ | .string _, .integer _ | .string _, .boolean _ | .string _, .list _
  | .boolean _, .type _ | .boolean _, .integer _ | .boolean _, .string _ | .boolean _, .list _
  | .list _, .type _ | .list _, .integer _ | .list _, .string _ | .list _, .boolean _ =>
    .isFalse (by simp)

/-- Decides equality of lists of parameters. -/
def Param.decideEqAll : (a b : List (Param ρ)) → Decidable (a = b)
  | [], [] => .isTrue rfl
  | a :: as, b :: bs =>
    match a.decideEq b with
    | .isFalse h => .isFalse (by simp [h])
    | .isTrue h =>
      match Param.decideEqAll as bs with
      | .isTrue h' => .isTrue (by simp [h, h'])
      | .isFalse h' => .isFalse (by simp [h'])
  | [], _ :: _ => .isFalse (by simp)
  | _ :: _, [] => .isFalse (by simp)

end

/-- Whether two nodes are identical: whether they come from the same build. -/
def TypeNode.identical (a b : TypeNode ρ) : Bool :=
  match a.decideEq b with
  | .isTrue _ => true
  | .isFalse _ => false

/-- The test for identity decides equality. -/
@[simp] theorem TypeNode.identical_iff {a b : TypeNode ρ} : a.identical b = true ↔ a = b := by
  rw [identical]
  split <;> simp_all

end Identity

end MultiDispatch
