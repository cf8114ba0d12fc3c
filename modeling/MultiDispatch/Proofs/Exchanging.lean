import Mathlib.Data.Option.Defs
import MultiDispatch.Proofs.Matching

set_option autoImplicit false
set_option relaxedAutoImplicit false

/-!
# Exchanging twins

Two nodes that describe the same type and have the same faces are twins, whatever builds they come
from.  They can take each other's place: as arguments, in the slots of signatures, in lists there,
and inside other nodes, which are rebuilt for that.  No table notices.

Describing the same type would not be enough, since a node with other faces implements other types.

## Main definitions

* `MultiDispatch.TypeNode.Twins` — the same type with the same faces.
* `MultiDispatch.TypeNode.Exchanged`, `MultiDispatch.Param.Exchanged` — two nodes take each
  other's place anywhere in a node or a parameter.
* `MultiDispatch.Overload.Exchanged` — the same implementation, with nodes exchanged in the
  signature.

## Main results

* `MultiDispatch.TypeNode.Exchanged.bare_eq` — exchanging twins changes no bare description.
* `MultiDispatch.TypeNode.Exchanged.implements_eq` — it does not change what a node implements.
* `MultiDispatch.DispatchTable.resolve_exchanged` — it does not change what a table resolves to.
-/

namespace MultiDispatch

variable {ρ : Role → Type}

/-! ## Exchanging two nodes -/

mutual

/-- Whether a node becomes another one when `a` and `b` take each other's place anywhere in it: it
may be one of them, or have them in its template, its parameters and its faces at any depth.  Of a
node that is rebuilt around them the serial number and the rules may be others. -/
inductive TypeNode.Exchanged (a b : TypeNode ρ) : TypeNode ρ → TypeNode ρ → Prop where
  /-- A node may be left alone. -/
  | same (node : TypeNode ρ) : TypeNode.Exchanged a b node node
  /-- The second node takes the place of the first. -/
  | secondForFirst : TypeNode.Exchanged a b a b
  /-- The first node takes the place of the second. -/
  | firstForSecond : TypeNode.Exchanged a b b a
  /-- The nodes are exchanged inside a node, which is rebuilt. -/
  | rebuilt {serial serial' : Serial} {name : Option String}
    {template template' : Option (TypeNode ρ)} {params params' : List (Param ρ)}
    {faces faces' : List (TypeNode ρ)} {interface interface' : Interface ρ}
    (in_template : Option.Rel (TypeNode.Exchanged a b) template template')
    (in_params : List.Forall₂ (Param.Exchanged a b) params params')
    (in_faces : List.Forall₂ (TypeNode.Exchanged a b) faces faces') :
    TypeNode.Exchanged a b ⟨serial, name, template, params, faces, interface⟩
      ⟨serial', name, template', params', faces', interface'⟩

/-- Whether a parameter becomes another one when `a` and `b` take each other's place anywhere in
it. -/
inductive Param.Exchanged (a b : TypeNode ρ) : Param ρ → Param ρ → Prop where
  /-- A parameter may be left alone. -/
  | same (param : Param ρ) : Param.Exchanged a b param param
  /-- The nodes are exchanged in a type. -/
  | type {node node' : TypeNode ρ} (in_node : TypeNode.Exchanged a b node node') :
    Param.Exchanged a b (.type node) (.type node')
  /-- The nodes are exchanged in items of a list. -/
  | list {items items' : List (Param ρ)}
    (in_items : List.Forall₂ (Param.Exchanged a b) items items') :
    Param.Exchanged a b (.list items) (.list items')

end

/-- Whether two overloads have the same implementation, with two nodes exchanged in the
signature. -/
structure Overload.Exchanged (a b : TypeNode ρ) (overload overload' : Overload ρ) : Prop where
  implementation_eq : overload.implementation = overload'.implementation
  in_slots : List.Forall₂ (Param.Exchanged a b) overload.signature.slots overload'.signature.slots

variable [∀ role, DecidableEq (ρ role)] {a b : TypeNode ρ}

/-- Two nodes are twins if they describe the same type and have the same faces. -/
structure TypeNode.Twins (a b : TypeNode ρ) : Prop where
  sameType_eq : a.sameType b = true
  faces_eq : a.faces = b.faces

/-! ## Bare descriptions -/

mutual

/-- Exchanging twins in a node changes nothing about its bare description.

**Proof sketch.** Induction on the exchange.  The twins have the same bare description, and a node
that is rebuilt keeps its name, while template and parameters keep their bare descriptions. -/
theorem TypeNode.Exchanged.bare_eq (twins : a.Twins b) : ∀ {node node' : TypeNode ρ},
    TypeNode.Exchanged a b node node' → node.bare = node'.bare
  | _, _, .same _ => rfl
  | _, _, .secondForFirst => TypeNode.sameType_iff_bare.mp twins.sameType_eq
  | _, _, .firstForSecond => (TypeNode.sameType_iff_bare.mp twins.sameType_eq).symm
  | _, _, .rebuilt in_template in_params _ => by
    rw [TypeNode.bare, TypeNode.bare, TypeNode.bareTemplate_exchanged twins in_template,
      Param.bareAll_exchanged twins in_params]

/-- Exchanging twins in a template changes nothing about its bare description. -/
theorem TypeNode.bareTemplate_exchanged (twins : a.Twins b) :
    ∀ {template template' : Option (TypeNode ρ)},
    Option.Rel (TypeNode.Exchanged a b) template template' →
      TypeNode.bareTemplate template = TypeNode.bareTemplate template'
  | _, _, .none => rfl
  | _, _, .some in_node => by
    rw [TypeNode.bareTemplate, TypeNode.bareTemplate, in_node.bare_eq twins]

/-- Exchanging twins in a parameter changes nothing about its bare description. -/
theorem Param.Exchanged.bare_eq (twins : a.Twins b) : ∀ {param param' : Param ρ},
    Param.Exchanged a b param param' → param.bare = param'.bare
  | _, _, .same _ => rfl
  | _, _, .type in_node => by rw [Param.bare, Param.bare, in_node.bare_eq twins]
  | _, _, .list in_items => by
    rw [Param.bare, Param.bare, Param.bareAll_exchanged twins in_items]

/-- Exchanging twins in parameters changes nothing about their bare descriptions. -/
theorem Param.bareAll_exchanged (twins : a.Twins b) : ∀ {params params' : List (Param ρ)},
    List.Forall₂ (Param.Exchanged a b) params params' →
      Param.bareAll params = Param.bareAll params'
  | _, _, .nil => rfl
  | _, _, .cons in_param in_rest => by
    rw [Param.bareAll, Param.bareAll, in_param.bare_eq twins,
      Param.bareAll_exchanged twins in_rest]

end

/-! ## What nodes implement -/

/-- Nodes with the same bare description implement the same types if their faces do. -/
lemma TypeNode.implements_congr_left {node node' other : TypeNode ρ}
    (described : node.bare = node'.bare)
    (faces : (∃ face ∈ node.faces, face.implements other = true) ↔
      ∃ face ∈ node'.faces, face.implements other = true) :
    node.implements other = node'.implements other := by
  rw [Bool.eq_iff_iff, implements_iff_faces, implements_iff_faces, sameType_iff_bare,
    sameType_iff_bare, described, faces]

/-- Twins implement the same types. -/
lemma TypeNode.Twins.implements_eq (twins : a.Twins b) (other : TypeNode ρ) :
    a.implements other = b.implements other :=
  implements_congr_left (sameType_iff_bare.mp twins.sameType_eq) (by rw [twins.faces_eq])

mutual

/-- Exchanging twins in a node does not change what the node implements.

**Proof sketch.** Induction on the exchange.  Twins implement the same types.  A node that is
rebuilt describes the same type as before, and its faces implement the same types as before. -/
theorem TypeNode.Exchanged.implements_eq (twins : a.Twins b) (other : TypeNode ρ) :
    ∀ {node node' : TypeNode ρ}, TypeNode.Exchanged a b node node' →
      node.implements other = node'.implements other
  | _, _, .same _ => rfl
  | _, _, .secondForFirst => twins.implements_eq other
  | _, _, .firstForSecond => (twins.implements_eq other).symm
  | _, _, .rebuilt in_template in_params in_faces =>
    TypeNode.implements_congr_left
      ((TypeNode.Exchanged.rebuilt in_template in_params in_faces).bare_eq twins)
      (TypeNode.exists_implements_exchanged twins other in_faces)

/-- Exchanging twins in nodes does not change whether one of them implements a type. -/
theorem TypeNode.exists_implements_exchanged (twins : a.Twins b) (other : TypeNode ρ) :
    ∀ {nodes nodes' : List (TypeNode ρ)}, List.Forall₂ (TypeNode.Exchanged a b) nodes nodes' →
      ((∃ node ∈ nodes, node.implements other = true) ↔
        ∃ node ∈ nodes', node.implements other = true)
  | _, _, .nil => Iff.rfl
  | _, _, .cons in_node in_rest => by
    rw [List.exists_mem_cons_iff, List.exists_mem_cons_iff, in_node.implements_eq twins other,
      TypeNode.exists_implements_exchanged twins other in_rest]

end

/-! ## What is resolved -/

mutual

/-- Exchanging twins in an argument does not change which slots it satisfies.

**Proof sketch.** Induction on the exchange.  A type satisfies the slots with types that it
implements.  The items of a list satisfy the slots of a list one by one. -/
theorem Param.Exchanged.satisfies_eq (twins : a.Twins b) : ∀ {argument argument' : Param ρ},
    Param.Exchanged a b argument argument' → ∀ slot,
      argument.satisfies slot = argument'.satisfies slot
  | _, _, .same _, _ => rfl
  | _, _, .type in_node, .type face => by
    rw [Param.satisfies, Param.satisfies, in_node.implements_eq twins face]
  | .type node, .type node', .type in_node, .list options => by
    have offers : Param.offersType node = Param.offersType node' := by
      funext option
      cases option with
      | type face => exact in_node.implements_eq twins face
      | integer _ | string _ | boolean _ | list _ => rfl
    rw [Param.satisfies, Param.satisfies, offers]
  | _, _, .list in_items, .list slots => by
    rw [Param.satisfies, Param.satisfies, Param.allSatisfy_exchanged twins in_items slots]
  -- neither a type nor a list satisfies a scalar, nor a list a type
  | _, _, .type _, .integer _ | _, _, .type _, .string _ | _, _, .type _, .boolean _
  | _, _, .list _, .type _ | _, _, .list _, .integer _ | _, _, .list _, .string _
  | _, _, .list _, .boolean _ => by simp only [Param.satisfies]

/-- Exchanging twins in arguments does not change which slots they satisfy. -/
theorem Param.allSatisfy_exchanged (twins : a.Twins b) :
    ∀ {arguments arguments' : List (Param ρ)},
    List.Forall₂ (Param.Exchanged a b) arguments arguments' → ∀ slots,
      Param.allSatisfy arguments slots = Param.allSatisfy arguments' slots
  | _, _, .nil, _ => rfl
  | _, _, .cons in_argument in_rest, slot :: slots => by
    rw [Param.allSatisfy, Param.allSatisfy, in_argument.satisfies_eq twins slot,
      Param.allSatisfy_exchanged twins in_rest slots]
  | _, _, .cons _ _, [] => by simp only [Param.allSatisfy]

end

/-- Exchanging twins in the signature of an overload makes an equivalent overload. -/
lemma Overload.Exchanged.equivalent (twins : a.Twins b) {overload overload' : Overload ρ}
    (exchanged : Overload.Exchanged a b overload overload') :
    Overload.Equivalent overload overload' where
  signature_eq := (Param.list_beq_eq_sameParams _ _).trans
    (Param.sameParams_iff_bare.mpr (Param.bareAll_exchanged twins exchanged.in_slots))
  implementation_eq := exchanged.implementation_eq

/-- Exchanging twins anywhere in the arguments and in the signatures of a history does not change
what is found.

**Proof sketch.** The histories are equivalent, and a signature accepts the arguments before the
exchange exactly if it accepts them afterwards. -/
theorem DispatchTable.resolve_exchanged (twins : a.Twins b) {first second : List (Overload ρ)}
    (in_history : List.Forall₂ (Overload.Exchanged a b) first second)
    {arguments arguments' : List (Param ρ)}
    (in_arguments : List.Forall₂ (Param.Exchanged a b) arguments arguments') :
    (ofOverloads first).resolve arguments = (ofOverloads second).resolve arguments' := by
  have equivalent : List.Forall₂ Overload.Equivalent first second :=
    in_history.imp fun _ _ exchanged => exchanged.equivalent twins
  have accepts : ∀ overload : Overload ρ,
      overload.signature.accepts arguments = overload.signature.accepts arguments' :=
    fun overload => Param.allSatisfy_exchanged twins in_arguments overload.signature.slots
  rw [resolve_congr equivalent, resolve_ofOverloads, resolve_ofOverloads]
  simp only [accepts]

end MultiDispatch
