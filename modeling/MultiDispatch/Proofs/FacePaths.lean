import Mathlib.Data.List.Shortlex
import Mathlib.Logic.Relation
import Mathlib.Order.Lattice.Nat
import Mathlib.Tactic.Lemma
import MultiDispatch.TypeNode.Lineage

set_option autoImplicit false
set_option relaxedAutoImplicit false

/-!
# Paths along faces

A path along faces starts at a node and goes on, at each step, to a face of the node where it
is; it is told by the index of the face at each step.  Faces are smaller than the node that has
them, so a node has finitely many paths.  They are listed here level by level: first the path
without steps, then the paths of one step, and so on until a level is empty.

## Main definitions

* `MultiDispatch.TypeNode.follow` — where a list of indices leads.
* `MultiDispatch.TypeNode.FacePath` — a path with its end.
* `MultiDispatch.TypeNode.facePaths` — all paths of a node, level by level.
* `MultiDispatch.TypeNode.Reaches`, `MultiDispatch.TypeNode.distance` — whether a node is at the
  end of some path, and how many steps a shortest such path has.

## Main results

* `MultiDispatch.TypeNode.mem_facePaths`, `MultiDispatch.TypeNode.pairwise_facePaths` — the list
  has every path, the shorter ones first and equally long ones in lexicographic order.
* `MultiDispatch.TypeNode.reaches_iff_exists_facePath` — what is reached is what paths lead to.
-/

namespace MultiDispatch.TypeNode

variable {ρ : Role → Type}

/-! ## Following indices -/

/-- The faces of nodes are together no larger than the nodes. -/
lemma totalSize_flatMap_faces_le (nodes : List (TypeNode ρ)) :
    totalSize (nodes.flatMap TypeNode.faces) ≤ totalSize nodes := by
  induction nodes with
  | nil => exact Nat.le_refl _
  | cons node rest ih =>
    have := totalSize_faces_lt node
    simp only [totalSize, List.flatMap_cons, List.map_append, List.map_cons, List.sum_append,
      List.sum_cons] at this ih ⊢
    omega

/-- The node that a list of indices leads to, taking the face of that index at each step. -/
def follow (node : TypeNode ρ) : List Nat → Option (TypeNode ρ)
  | [] => some node
  | index :: rest => node.faces[index]?.bind fun face => face.follow rest

/-- A path in two parts leads where the second part leads from the end of the first. -/
lemma follow_append (node : TypeNode ρ) (first second : List Nat) :
    node.follow (first ++ second) = (node.follow first).bind fun mid => mid.follow second := by
  induction first generalizing node with
  | nil => rfl
  | cons index first ih =>
    simp only [List.cons_append, follow, Option.bind_assoc]
    congr 1
    funext face
    exact ih face

/-- A path along faces: the indices of its steps and the node to which they lead. -/
@[ext] structure FacePath (node : TypeNode ρ) where
  /-- The index of the face taken at each step. -/
  indices : List Nat
  /-- The node at the end. -/
  target : TypeNode ρ
  leads : node.follow indices = some target

namespace FacePath

variable {node : TypeNode ρ}

/-- The path without steps. -/
def start (node : TypeNode ρ) : FacePath node := ⟨[], node, rfl⟩

/-- The path of one more step, to a face of its end. -/
def extend (path : FacePath node) (index : Fin path.target.faces.length) : FacePath node where
  indices := path.indices ++ [index.val]
  target := path.target.faces[index]
  leads := by simp [follow_append, path.leads, follow]

/-- All paths of one more step, in the order of the faces at the end. -/
def extensions (path : FacePath node) : List (FacePath node) :=
  (List.finRange path.target.faces.length).map path.extend

/-- Paths with the same indices are the same. -/
lemma eq_of_indices {p q : FacePath node} (h : p.indices = q.indices) : p = q := by
  have ends : some p.target = some q.target := by rw [← p.leads, ← q.leads, h]
  exact FacePath.ext h (Option.some.inj ends)

/-- The ends of the paths of one more step are the faces at the end. -/
lemma map_target_extensions (path : FacePath node) :
    path.extensions.map (·.target) = path.target.faces := by
  rw [extensions, List.map_map]
  exact List.map_getElem_finRange path.target.faces

/-- The first steps of a path form a path. -/
lemma exists_take (path : FacePath node) (n : Nat) :
    ∃ first : FacePath node, first.indices = path.indices.take n := by
  have split : node.follow (path.indices.take n ++ path.indices.drop n) = some path.target := by
    rw [List.take_append_drop, path.leads]
  rw [follow_append] at split
  obtain ⟨mid, here, -⟩ := Option.bind_eq_some_iff.mp split
  exact ⟨⟨path.indices.take n, mid, here⟩, rfl⟩

/-- A path with steps extends the path without the last of them. -/
lemma exists_mem_extensions (path : FacePath node) {n : Nat} (long : path.indices.length = n + 1) :
    ∃ first : FacePath node, first.indices.length = n ∧ path ∈ first.extensions := by
  obtain ⟨indices, target, leads⟩ := path
  obtain ⟨front, index, rfl⟩ : ∃ front index, indices = front ++ [index] :=
    ⟨indices.dropLast, indices.getLast (by rintro rfl; simp at long),
      (List.dropLast_append_getLast _).symm⟩
  have step := leads
  rw [follow_append] at step
  obtain ⟨mid, here, last⟩ := Option.bind_eq_some_iff.mp step
  obtain ⟨face, at_index, -⟩ := Option.bind_eq_some_iff.mp last
  obtain ⟨bound, -⟩ := List.getElem?_eq_some_iff.mp at_index
  refine ⟨⟨front, mid, here⟩, by simpa using long, ?_⟩
  rw [extensions, List.mem_map]
  exact ⟨⟨index, bound⟩, List.mem_finRange _, eq_of_indices rfl⟩

/-! ## Levels -/

/-- The order of paths: shorter ones first, equally long ones by their indices. -/
def Before (p q : FacePath node) : Prop := List.Shortlex (· < ·) p.indices q.indices

/-- A level holds the paths of one length, in order. -/
structure IsLevel (n : Nat) (level : List (FacePath node)) : Prop where
  mem_iff : ∀ path : FacePath node, path ∈ level ↔ path.indices.length = n
  ordered : level.Pairwise Before

/-- The path without steps is the first level. -/
lemma isLevel_start : IsLevel 0 [start node] where
  mem_iff path := by
    rw [List.mem_singleton, List.length_eq_zero_iff]
    refine ⟨fun h => by rw [h, start], fun h => eq_of_indices ?_⟩
    rw [h, start]
  ordered := List.pairwise_singleton _ _

/-- Extensions of a path come in order. -/
lemma ordered_extensions (path : FacePath node) : path.extensions.Pairwise Before := by
  rw [extensions, List.pairwise_map]
  refine (List.pairwise_lt_finRange _).imp fun {i j} less => ?_
  exact List.Shortlex.append_left ((List.shortlex_singleton_iff i.val j.val).mpr less) path.indices

/-- Of two equally long lists the lexicographic order is decided whatever follows them. -/
lemma lex_append_of_length_eq {s t : List Nat} (same : s.length = t.length)
    (h : List.Lex (· < ·) s t) (more more' : List Nat) :
    List.Lex (· < ·) (s ++ more) (t ++ more') := by
  induction h with
  | nil => simp at same
  | cons _ ih => exact .cons (ih (by simpa using same))
  | rel less => exact .rel less

/-- Extensions keep the order of equally long paths. -/
lemma before_of_mem_extensions {p q p' q' : FacePath node}
    (same : p.indices.length = q.indices.length) (h : p.Before q) (hp : p' ∈ p.extensions)
    (hq : q' ∈ q.extensions) : p'.Before q' := by
  obtain ⟨i, -, rfl⟩ := List.mem_map.mp hp
  obtain ⟨j, -, rfl⟩ := List.mem_map.mp hq
  have lex : List.Lex (· < ·) p.indices q.indices := (List.shortlex_iff_lex same).mp h
  exact List.Shortlex.of_lex (by simp [extend, same]) (lex_append_of_length_eq same lex _ _)

/-- The extensions of a level are the next level.

**Proof sketch.** Every path of `n + 1` steps extends one of `n` steps, and extensions have one
step more.  Extensions of one path are in the order of its last step; those of different paths
are in the order of these paths, which have the same length. -/
lemma IsLevel.next {n : Nat} {level : List (FacePath node)} (h : IsLevel n level) :
    IsLevel (n + 1) (level.flatMap extensions) where
  mem_iff path := by
    rw [List.mem_flatMap]
    constructor
    · rintro ⟨first, here, there⟩
      obtain ⟨i, -, rfl⟩ := List.mem_map.mp there
      simp [extend, (h.mem_iff first).mp here]
    · intro long
      obtain ⟨first, length, there⟩ := path.exists_mem_extensions long
      exact ⟨first, (h.mem_iff first).mpr length, there⟩
  ordered := by
    rw [List.pairwise_flatMap]
    refine ⟨fun path _ => path.ordered_extensions, ?_⟩
    refine h.ordered.imp_of_mem fun {p q} hp hq before p' hp' q' hq' => ?_
    have same : p.indices.length = q.indices.length :=
      ((h.mem_iff p).mp hp).trans ((h.mem_iff q).mp hq).symm
    exact before_of_mem_extensions same before hp' hq'

/-- The ends of the next level are the faces of the ends of a level. -/
lemma map_target_flatMap_extensions (level : List (FacePath node)) :
    (level.flatMap extensions).map (·.target) =
      (level.map (·.target)).flatMap TypeNode.faces := by
  induction level with
  | nil => rfl
  | cons path rest ih =>
    rw [List.flatMap_cons, List.map_append, map_target_extensions, ih, List.map_cons,
      List.flatMap_cons]

/-- The paths of a level and of all levels after it, until one is empty. -/
def levelsFrom : List (FacePath node) → List (FacePath node)
  | [] => []
  | path :: rest => path :: rest ++ levelsFrom ((path :: rest).flatMap extensions)
termination_by level => totalSize (level.map (·.target))
decreasing_by
  have first := totalSize_faces_lt path.target
  have others := totalSize_flatMap_faces_le (rest.map (·.target))
  rw [map_target_flatMap_extensions]
  simp only [totalSize, List.map_cons, List.flatMap_cons, List.map_append, List.sum_append,
    List.sum_cons] at first others ⊢
  omega

/-- From a level on, the levels hold every path that is at least as long.

**Proof sketch.** Induction along the levels.  If the level for `n` steps is empty there is no
path of `n` steps or more, since its first `n` steps would be one. -/
lemma mem_levelsFrom {n : Nat} {level : List (FacePath node)} (h : IsLevel n level)
    (path : FacePath node) : path ∈ levelsFrom level ↔ n ≤ path.indices.length := by
  fun_induction levelsFrom level generalizing n with
  | case1 =>
    simp only [List.not_mem_nil, false_iff]
    intro long
    obtain ⟨first, hfirst⟩ := path.exists_take n
    have : first ∈ ([] : List (FacePath node)) := by
      rw [h.mem_iff, hfirst, List.length_take, Nat.min_eq_left long]
    exact absurd this List.not_mem_nil
  | case2 first rest ih =>
    rw [List.mem_append, ih h.next, h.mem_iff]
    omega

/-- From a level on, the levels are in order.

**Proof sketch.** Induction along the levels: a level is in order, and all later paths are
longer. -/
lemma pairwise_levelsFrom {n : Nat} {level : List (FacePath node)} (h : IsLevel n level) :
    (levelsFrom level).Pairwise Before := by
  fun_induction levelsFrom level generalizing n with
  | case1 => exact List.Pairwise.nil
  | case2 first rest ih =>
    refine List.pairwise_append.mpr ⟨h.ordered, ih h.next, fun p hp q hq => ?_⟩
    have short : p.indices.length = n := (h.mem_iff p).mp hp
    have long : n + 1 ≤ q.indices.length := (mem_levelsFrom h.next q).mp hq
    exact List.Shortlex.of_length_lt (by omega)

end FacePath

/-- All paths of a node, level by level. -/
def facePaths (node : TypeNode ρ) : List (FacePath node) :=
  FacePath.levelsFrom [FacePath.start node]

/-- Every path is listed. -/
theorem mem_facePaths {node : TypeNode ρ} (path : FacePath node) : path ∈ node.facePaths :=
  (FacePath.mem_levelsFrom FacePath.isLevel_start path).mpr (Nat.zero_le _)

/-- Paths are listed the shorter ones first, equally long ones in lexicographic order. -/
theorem pairwise_facePaths (node : TypeNode ρ) : node.facePaths.Pairwise FacePath.Before :=
  FacePath.pairwise_levelsFrom FacePath.isLevel_start

/-! ## Reachable nodes -/

/-- Whether faces of faces, in any number of steps, lead from a node to another. -/
def Reaches (node other : TypeNode ρ) : Prop :=
  Relation.ReflTransGen (fun current face => face ∈ current.faces) node other

/-- What a node reaches is what its paths lead to.

**Proof sketch.** In one direction induction on the steps, each of which extends a path by the
index of a face; in the other induction on the indices. -/
theorem reaches_iff_exists_facePath {node other : TypeNode ρ} :
    node.Reaches other ↔ ∃ path : FacePath node, path.target = other := by
  constructor
  · intro h
    induction h with
    | refl => exact ⟨FacePath.start node, rfl⟩
    | tail _ step ih =>
      obtain ⟨path, rfl⟩ := ih
      rw [← path.map_target_extensions] at step
      obtain ⟨longer, -, there⟩ := List.mem_map.mp step
      exact ⟨longer, there⟩
  · rintro ⟨⟨indices, target, leads⟩, rfl⟩
    induction indices generalizing node with
    | nil =>
      obtain rfl : node = target := Option.some.inj leads
      exact .refl
    | cons index rest ih =>
      obtain ⟨face, at_index, leads⟩ := Option.bind_eq_some_iff.mp leads
      exact .head (List.mem_of_getElem? at_index) (ih leads)

/-- The number of steps of a shortest path to a node. -/
noncomputable def distance (node other : TypeNode ρ) : Nat :=
  sInf {n | ∃ path : FacePath node, path.target = other ∧ path.indices.length = n}

/-- No path to a node has fewer steps than its distance. -/
lemma distance_le {node : TypeNode ρ} (path : FacePath node) :
    node.distance path.target ≤ path.indices.length :=
  Nat.sInf_le ⟨path, rfl, rfl⟩

/-- Some path to a node that is reached has as many steps as its distance. -/
lemma exists_length_eq_distance {node other : TypeNode ρ} (h : node.Reaches other) :
    ∃ path : FacePath node, path.target = other ∧ path.indices.length = node.distance other := by
  obtain ⟨path, there⟩ := reaches_iff_exists_facePath.mp h
  have attained : Set.Nonempty
      {n | ∃ path : FacePath node, path.target = other ∧ path.indices.length = n} :=
    ⟨path.indices.length, path, there, rfl⟩
  exact Nat.sInf_mem attained

end MultiDispatch.TypeNode
