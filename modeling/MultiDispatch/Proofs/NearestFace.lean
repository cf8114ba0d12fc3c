import MultiDispatch.Proofs.Equality
import MultiDispatch.Proofs.Implementing

set_option autoImplicit false
set_option relaxedAutoImplicit false

/-!
# The nearest node of a type

A node is searched for another type by walking its lineage until a node describes that type.  The
walk goes by identity and the test by description, so several nodes may fit.  The one found is
nearest to the start of the walk, and of equally near ones the first on the walk; which node that
is depends only on the type asked for, not on the node that stands for it.

## Main definitions

* `MultiDispatch.TypeNode.IsNearestFace` — a node is the first and nearest that describes a type.

## Main results

* `MultiDispatch.TypeNode.findFace?_eq_some_iff` — the node found is the first and nearest one.
* `MultiDispatch.TypeNode.findFace?_congr` — it depends on the type asked for only.
* `MultiDispatch.TypeNode.implements_reaches_nearest` — implementing is reaching a node that
  describes the type, and the node found is the nearest of them.
-/

namespace MultiDispatch.TypeNode

variable {ρ : Role → Type} [∀ role, DecidableEq (ρ role)]

/-- Of the nodes that a node reaches and that describe the same type as `other`, a node is
nearest and comes first in the lineage. -/
structure IsNearestFace (node other found : TypeNode ρ) : Prop where
  reached : node.Reaches found
  sameType_eq : found.sameType other = true
  distance_le : ∀ current, node.Reaches current → current.sameType other = true →
    node.distance found ≤ node.distance current
  first : ∃ before after, node.lineage = before ++ found :: after ∧
    ∀ current ∈ before, current.sameType other = false

/-- The node found for a type is the first and nearest one that describes it.

**Proof sketch.** Nothing in front of the node found describes the type.  So every other node that
does comes behind it in the lineage, along which the distance never decreases. -/
theorem findFace?_eq_some_iff {node other found : TypeNode ρ} :
    node.findFace? other = some found ↔ node.IsNearestFace other found := by
  rw [findFace?, List.find?_eq_some_iff_append]
  constructor
  · rintro ⟨same, before, after, split, rejects⟩
    have rejected : ∀ current ∈ before, current.sameType other = false := by simpa using rejects
    have ordered := pairwise_distance_lineage node
    rw [split] at ordered
    refine ⟨mem_lineage.mp ?_, same, fun current reached fits => ?_, before, after, split, rejected⟩
    · rw [split]
      exact List.mem_append_right before List.mem_cons_self
    · have listed := mem_lineage.mpr reached
      rw [split] at listed
      rcases List.mem_append.mp listed with early | behind
      · rw [rejected current early] at fits
        cases fits
      · rcases List.mem_cons.mp behind with rfl | later
        · exact Nat.le_refl _
        · exact List.rel_of_pairwise_cons (List.pairwise_append.mp ordered).2.1 later
  · rintro ⟨-, same, -, before, after, split, rejected⟩
    exact ⟨same, before, after, split, by simpa using rejected⟩

/-- The node found depends only on the type asked for. -/
lemma findFace?_congr {other other' : TypeNode ρ} (h : other'.sameType other = true)
    (node : TypeNode ρ) : node.findFace? other' = node.findFace? other := by
  simp only [findFace?, sameType_congr_right h]

/-- **Implementing is reaching, up to the type described.**  A node implements a type exactly if
faces lead from it, in any number of steps, to a node that describes the type.  Then it finds the
nearest such node, of equally near ones the first on the walk.  Every node that describes the
type asked for gives the same node, and so does the node found itself.  What the node found
implements is implemented by the node that found it. -/
theorem implements_reaches_nearest (node other : TypeNode ρ) :
    (node.implements other = true ↔
      ∃ current, node.Reaches current ∧ current.sameType other = true) ∧
    (node.implements other = true ↔ ∃ found, node.findFace? other = some found) ∧
    (∀ found, node.findFace? other = some found ↔ node.IsNearestFace other found) ∧
    (∀ other', other'.sameType other = true → node.findFace? other' = node.findFace? other) ∧
    (∀ found, node.findFace? other = some found →
      node.findFace? found = some found ∧
      ∀ further, found.implements further = true → node.implements further = true) := by
  refine ⟨implements_iff_reaches, Option.isSome_iff_exists, fun _ => findFace?_eq_some_iff,
    fun _ same => findFace?_congr same node, fun found here => ?_⟩
  have nearest := findFace?_eq_some_iff.mp here
  refine ⟨?_, fun _ there => implements_of_reaches nearest.reached there⟩
  rw [findFace?_congr nearest.sameType_eq, here]

end MultiDispatch.TypeNode
