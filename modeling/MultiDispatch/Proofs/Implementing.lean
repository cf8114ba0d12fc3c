import MultiDispatch.Proofs.Lineage
import MultiDispatch.Signature

set_option autoImplicit false
set_option relaxedAutoImplicit false

/-!
# What a node implements

A node implements a type if it reaches, through faces, a node that describes this type.  From
what is reached in turn nothing is lost, so a node implements everything that is implemented by
a node it reaches.

## Main results

* `MultiDispatch.TypeNode.implements_iff_reaches` — implementing in terms of reaching.
* `MultiDispatch.TypeNode.Reaches.implements` — a node implements what it reaches.
* `MultiDispatch.TypeNode.implements_of_reaches` — a node implements what a node it reaches does.
* `MultiDispatch.TypeNode.implements_iff_faces` — a node implements what it describes and what its
  faces implement.
* `MultiDispatch.Signature.accepts_ofTypes_iff` — a signature of types accepts types that
  implement its slots one by one.
-/

namespace MultiDispatch

variable {ρ : Role → Type} [∀ role, DecidableEq (ρ role)]

namespace TypeNode

/-- A node implements a type exactly if it reaches a node that describes the type. -/
theorem implements_iff_reaches {node other : TypeNode ρ} :
    node.implements other = true ↔
      ∃ current, node.Reaches current ∧ current.sameType other = true := by
  rw [implements, findFace?, List.find?_isSome]
  exact exists_congr fun current => and_congr_left' mem_lineage

/-- A node implements every node that it reaches. -/
lemma Reaches.implements {node other : TypeNode ρ} (reached : node.Reaches other) :
    node.implements other = true :=
  implements_iff_reaches.mpr ⟨other, reached, other.sameType_self⟩

/-- A node implements what a node that it reaches implements. -/
theorem implements_of_reaches {node mid other : TypeNode ρ} (reached : node.Reaches mid)
    (h : mid.implements other = true) : node.implements other = true := by
  obtain ⟨current, further, same⟩ := implements_iff_reaches.mp h
  exact implements_iff_reaches.mpr ⟨current, reached.trans further, same⟩

/-- A node implements a type exactly if it describes the type or one of its faces implements
it. -/
theorem implements_iff_faces {node other : TypeNode ρ} :
    node.implements other = true ↔
      node.sameType other = true ∨ ∃ face ∈ node.faces, face.implements other = true := by
  rw [implements_iff_reaches]
  constructor
  · rintro ⟨current, reached, same⟩
    rcases Relation.ReflTransGen.cases_head reached with rfl | ⟨face, here, further⟩
    · exact Or.inl same
    · exact Or.inr ⟨face, here, implements_iff_reaches.mpr ⟨current, further, same⟩⟩
  · rintro (same | ⟨face, here, there⟩)
    · exact ⟨node, Relation.ReflTransGen.refl, same⟩
    · obtain ⟨current, further, same⟩ := implements_iff_reaches.mp there
      exact ⟨current, Relation.ReflTransGen.head here further, same⟩

end TypeNode

/-- A signature with a type in each slot accepts types exactly if they are as many and implement
the slots one by one. -/
theorem Signature.accepts_ofTypes_iff {slots types : List (TypeNode ρ)} :
    (Signature.ofTypes slots).accepts (types.map .type) = true ↔
      List.Forall₂ (fun argument slot => argument.implements slot = true) types slots := by
  rw [accepts, ofTypes]
  induction types generalizing slots with
  | nil => cases slots <;> simp [Param.allSatisfy]
  | cons argument types ih =>
    cases slots with
    | nil => simp [Param.allSatisfy]
    | cons slot slots =>
      simp only [List.map_cons, Param.allSatisfy, Param.satisfies, Bool.and_eq_true,
        List.forall₂_cons, ih]

end MultiDispatch
