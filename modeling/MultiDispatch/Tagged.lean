import MultiDispatch.TypeNode.Rulebook

set_option autoImplicit false
set_option relaxedAutoImplicit false

/-!
# Typed values

A typed value is a payload tagged with the node that owns it.  It is made by the node: from a
payload without any check, from a literal, or from raw data.

## Main definitions

* `MultiDispatch.Tagged` — a node and a payload.
* `MultiDispatch.TypeNode.tag`, `ofLiteral`, `ofData` — the three ways to make one.
* `MultiDispatch.Tagged.same` — equality: the same type and equal payloads.
* `MultiDispatch.Tagged.text` — the text, by the rule of the owning node.

## Main results

* `MultiDispatch.TypeNode.ofLiteral_eq_ok_iff` — what a literal yields is owned by the node.
-/

namespace MultiDispatch

variable {ρ : Role → Type}

/-- A payload tagged with the node that owns it. -/
structure Tagged (ρ : Role → Type) where
  /-- The node that owns the payload. -/
  type : TypeNode ρ
  /-- The payload. -/
  payload : Payload

namespace TypeNode

/-- Tags a payload without any check. -/
def tag (node : TypeNode ρ) (payload : Payload) : Tagged ρ := ⟨node, payload⟩

/-- The typed value of a literal. -/
def ofLiteral [Rulebook ρ] (node : TypeNode ρ) (source : String) (options : List (Param ρ)) :
    Except TypeFault (Tagged ρ) :=
  (node.parse source options).map node.tag

/-- The typed value built from raw data. -/
def ofData [Rulebook ρ] (node : TypeNode ρ) (data : List Payload) :
    Except TypeFault (Tagged ρ) :=
  (node.create data).map node.tag

end TypeNode

namespace Tagged

/-- Whether two typed values have the same type and equal payloads. -/
def same [∀ role, DecidableEq (ρ role)] (a b : Tagged ρ) : Bool :=
  a.type.sameType b.type && a.payload.same b.payload

instance [∀ role, DecidableEq (ρ role)] : BEq (Tagged ρ) := ⟨same⟩

/-- The text of a typed value, by the rule of its type, given options. -/
def text [Rulebook ρ] (value : Tagged ρ) (options : List (Param ρ)) : String :=
  value.type.stringify value.payload options

/-- The numeric coercion is that of the payload. -/
def toFloat? (value : Tagged ρ) : Option Float := value.payload.toFloat?

end Tagged

/-- A literal yields a value owned by the node exactly if the node's rule reads it. -/
theorem TypeNode.ofLiteral_eq_ok_iff [Rulebook ρ] {node : TypeNode ρ} {source : String}
    {options : List (Param ρ)} {value : Tagged ρ} :
    node.ofLiteral source options = .ok value ↔
      value.type = node ∧ node.parse source options = .ok value.payload := by
  cases value
  rw [ofLiteral]
  cases node.parse source options with
  | error => simp [Except.map]
  | ok => simp [Except.map, tag, eq_comm]

end MultiDispatch
