import MultiDispatch.TypeNode.SameType

set_option autoImplicit false
set_option relaxedAutoImplicit false

/-!
# The lineage of a type

The lineage of a node lists the node itself and everything it reaches through faces, each node
once, nearer ones first and equally near ones in the order of the faces that lead to them.  It is
walked breadth first with a queue; a node is marked as seen when it enters the queue.

A node implements a type if a node of its lineage describes that type.

## Main definitions

* `MultiDispatch.TypeNode.lineage` — the breadth-first walk.
* `MultiDispatch.TypeNode.findFace?` — the first node of the lineage that describes a type.
* `MultiDispatch.TypeNode.implements` — whether there is one.

## Main results

* `MultiDispatch.TypeNode.head?_lineage` — a node comes first in its own lineage.
* `MultiDispatch.TypeNode.implements_of_sameType` — a node implements every type it describes.
-/

namespace MultiDispatch.TypeNode

-- Sums are those of the core library, whatever else is imported.
attribute [local instance (2000)] Zero.ofOfNat0

variable {ρ : Role → Type}

/-- The size of all trees of a list together; it shows that the walk ends and is never
computed. -/
noncomputable def totalSize (nodes : List (TypeNode ρ)) : Nat := (nodes.map sizeOf).sum

/-- The faces of a node are together smaller than the node. -/
theorem totalSize_faces_lt (node : TypeNode ρ) : totalSize node.faces < sizeOf node := by
  have bound : ∀ nodes : List (TypeNode ρ), totalSize nodes ≤ sizeOf nodes := by
    intro nodes
    induction nodes with
    | nil => simp [totalSize]
    | cons node rest ih =>
      simp only [totalSize, List.map_cons, List.sum_cons, List.cons.sizeOf_spec] at ih ⊢
      omega
  have := bound node.faces
  cases node
  simp only [TypeNode.mk.sizeOf_spec] at this ⊢
  omega

variable [∀ role, DecidableEq (ρ role)]

/-- The nodes that were not seen before, each at its first occurrence. -/
def unseen (seen : List (TypeNode ρ)) : List (TypeNode ρ) → List (TypeNode ρ)
  | [] => []
  | node :: rest =>
    if seen.any node.identical then unseen seen rest
    else node :: unseen (node :: seen) rest

/-- What is left of a list without the nodes seen before is no larger. -/
theorem totalSize_unseen_le (seen nodes : List (TypeNode ρ)) :
    totalSize (unseen seen nodes) ≤ totalSize nodes := by
  induction nodes generalizing seen with
  | nil => exact Nat.le_refl _
  | cons node rest ih =>
    rw [unseen]
    split
    · have := ih seen
      simp only [totalSize, List.map_cons, List.sum_cons] at this ⊢
      omega
    · have := ih (node :: seen)
      simp only [totalSize, List.map_cons, List.sum_cons] at this ⊢
      omega

/-- The walk from a queue of nodes all of which have been seen: the first node is listed, and
those of its faces that are new enter the queue at its end. -/
def walk (seen : List (TypeNode ρ)) : List (TypeNode ρ) → List (TypeNode ρ)
  | [] => []
  | node :: queue =>
    let entering := unseen seen node.faces
    node :: walk (entering ++ seen) (queue ++ entering)
termination_by queue => totalSize queue
decreasing_by
  have faces := totalSize_faces_lt node
  have entering := totalSize_unseen_le seen node.faces
  simp only [totalSize, List.map_append, List.sum_append, List.map_cons, List.sum_cons]
    at faces entering ⊢
  omega

/-- The node itself and all it reaches through faces, in breadth-first order. -/
def lineage (node : TypeNode ρ) : List (TypeNode ρ) := walk [node] [node]

/-- The first node of the lineage that describes the same type as `other`. -/
def findFace? (node other : TypeNode ρ) : Option (TypeNode ρ) :=
  node.lineage.find? fun current => current.sameType other

/-- Whether a node of the lineage describes the same type as `other`. -/
def implements (node other : TypeNode ρ) : Bool := (node.findFace? other).isSome

/-- A node comes first in its own lineage. -/
@[simp] theorem head?_lineage (node : TypeNode ρ) : node.lineage.head? = some node := by
  rw [lineage, walk, List.head?_cons]

/-- A node implements every type it describes. -/
theorem implements_of_sameType {node other : TypeNode ρ} (h : node.sameType other = true) :
    node.implements other = true := by
  rw [implements, findFace?, lineage, walk, List.find?_cons, h, Option.isSome_some]

end MultiDispatch.TypeNode
