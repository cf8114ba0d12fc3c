import MultiDispatch.Proofs.FacePaths

set_option autoImplicit false
set_option relaxedAutoImplicit false

/-!
# The lineage is the list of paths without repetitions

The lineage is walked with a queue, and a node is marked when it enters the queue.  Without marks
the same walk lists the ends of all paths, level by level.  The walk with marks lists the same
nodes, each only where it comes first.

## Main definitions

* `MultiDispatch.TypeNode.walkUnmarked` — the walk that marks nothing.
* `MultiDispatch.TypeNode.firstOccurrences` — a list without its repetitions.
* `MultiDispatch.TypeNode.Marks` — how the two walks stand to each other at each step.

## Main results

* `MultiDispatch.TypeNode.walk_eq_unseen_walkUnmarked` — marks leave out repetitions only.
* `MultiDispatch.TypeNode.mem_lineage` — the lineage holds what the node reaches.
* `MultiDispatch.TypeNode.lineage_eq_firstOccurrences_facePaths` — the lineage is the list of the
  ends of all paths, each where it comes first.
-/

namespace MultiDispatch.TypeNode

variable {ρ : Role → Type}

/-! ## The walk without marks -/

/-- The walk that marks nothing: all faces of a node enter the queue, however often they have
been there. -/
def walkUnmarked : List (TypeNode ρ) → List (TypeNode ρ)
  | [] => []
  | node :: queue => node :: walkUnmarked (queue ++ node.faces)
termination_by queue => totalSize queue
decreasing_by
  have faces := totalSize_faces_lt node
  simp only [totalSize, List.map_append, List.sum_append, List.map_cons, List.sum_cons] at faces ⊢
  omega

/-- The walk without marks lists all nodes in the queue before any that enter it. -/
lemma walkUnmarked_append (first second : List (TypeNode ρ)) :
    walkUnmarked (first ++ second) = first ++ walkUnmarked (second ++ first.flatMap faces) := by
  induction first generalizing second with
  | nil => simp
  | cons node rest ih =>
    rw [List.cons_append, walkUnmarked, List.append_assoc, ih, List.cons_append,
      List.flatMap_cons, List.append_assoc]

/-- The walk without marks lists the ends of all paths, level by level.

**Proof sketch.** Induction along the levels.  When the queue holds the ends of one level, these
are listed first, and the queue then holds their faces, the ends of the next level. -/
lemma walkUnmarked_eq_levelsFrom {node : TypeNode ρ} (level : List (FacePath node)) :
    walkUnmarked (level.map (·.target)) = (FacePath.levelsFrom level).map (·.target) := by
  fun_induction FacePath.levelsFrom level with
  | case1 => rw [List.map_nil, walkUnmarked]
  | case2 path rest ih =>
    have step := walkUnmarked_append ((path :: rest).map (·.target)) []
    rw [List.append_nil, List.nil_append] at step
    rw [step, List.map_append, ← ih, FacePath.map_target_flatMap_extensions]

/-! ## First occurrences -/

variable [∀ role, DecidableEq (ρ role)]

/-- The nodes of a list, each only where it comes first. -/
def firstOccurrences : List (TypeNode ρ) → List (TypeNode ρ)
  | [] => []
  | node :: rest => node :: (firstOccurrences rest).filter fun other => !other.identical node

/-- The test for identity fails exactly for different nodes. -/
@[simp] lemma identical_eq_false_iff {a b : TypeNode ρ} : a.identical b = false ↔ a ≠ b := by
  rw [← Bool.not_eq_true, identical_iff]

/-- A node is marked exactly if it is among the marked ones. -/
lemma any_identical {seen : List (TypeNode ρ)} {node : TypeNode ρ} :
    seen.any node.identical = true ↔ node ∈ seen := by
  simp

/-- Leaving out repetitions loses no node. -/
lemma mem_firstOccurrences {nodes : List (TypeNode ρ)} {node : TypeNode ρ} :
    node ∈ firstOccurrences nodes ↔ node ∈ nodes := by
  induction nodes with
  | nil => rfl
  | cons first rest ih =>
    rw [firstOccurrences, List.mem_cons, List.mem_cons, List.mem_filter, ih]
    by_cases same : node = first <;> simp [same]

/-- Where nodes follow each other among the first occurrences, the list has the former in front
of the latter, and the latter not before that.

**Proof sketch.** Induction on the list.  Behind its first node, what is kept differs from it, so
nothing changes when it is put in front. -/
lemma pairwise_firstOccurrences (nodes : List (TypeNode ρ)) :
    (firstOccurrences nodes).Pairwise fun x y =>
      ∃ before after, nodes = before ++ x :: after ∧ y ∉ before ∧ y ≠ x ∧ y ∈ after := by
  induction nodes with
  | nil => exact List.Pairwise.nil
  | cons first rest ih =>
    rw [firstOccurrences, List.pairwise_cons, List.pairwise_filter]
    constructor
    · intro y hy
      obtain ⟨there, differs⟩ := List.mem_filter.mp hy
      exact ⟨[], rest, rfl, List.not_mem_nil, by simpa using differs,
        mem_firstOccurrences.mp there⟩
    · refine ih.imp fun {x y} ⟨before, after, split, notBefore, differs, there⟩ _ hy => ?_
      have : y ≠ first := by simpa using hy
      exact ⟨first :: before, after, by rw [split, List.cons_append], by simp [this, notBefore],
        differs, there⟩

/-- No node is kept twice. -/
lemma nodup_firstOccurrences (nodes : List (TypeNode ρ)) : (firstOccurrences nodes).Nodup := by
  refine (pairwise_firstOccurrences nodes).imp ?_
  rintro x y ⟨_, _, _, _, differs, _⟩
  exact differs.symm

/-- What is not seen in a list consists of its first occurrences that were not seen before. -/
lemma unseen_eq_filter (seen nodes : List (TypeNode ρ)) :
    unseen seen nodes = (firstOccurrences nodes).filter fun node => !seen.any node.identical := by
  induction nodes generalizing seen with
  | nil => rfl
  | cons first rest ih =>
    rw [unseen, firstOccurrences, List.filter_cons, List.filter_filter]
    by_cases here : seen.any first.identical = true
    · rw [if_pos here, ih, here]
      refine List.filter_congr fun node _ => ?_
      by_cases same : node = first
      · simp [same, any_identical.mp here]
      · simp [identical_eq_false_iff.mpr same]
    · rw [if_neg here, ih]
      simp [here, List.any_cons, Bool.and_comm]

/-- With nothing seen before, what is not seen consists of the first occurrences. -/
lemma unseen_nil (nodes : List (TypeNode ρ)) : unseen [] nodes = firstOccurrences nodes := by
  simp [unseen_eq_filter]

/-- Which nodes were seen matters, not in which order or how often. -/
lemma unseen_congr {seen seen' : List (TypeNode ρ)} (h : ∀ node, node ∈ seen ↔ node ∈ seen')
    (nodes : List (TypeNode ρ)) : unseen seen nodes = unseen seen' nodes := by
  rw [unseen_eq_filter, unseen_eq_filter]
  refine List.filter_congr fun node _ => ?_
  congr 1
  rw [Bool.eq_iff_iff, any_identical, any_identical, h]

/-- Going on after a first part, the nodes of that part were seen too. -/
lemma unseen_append (seen first second : List (TypeNode ρ)) :
    unseen seen (first ++ second) = unseen seen first ++ unseen (first ++ seen) second := by
  induction first generalizing seen with
  | nil => rfl
  | cons node rest ih =>
    simp only [List.cons_append, unseen]
    split
    · next here =>
      rw [ih]
      congr 1
      refine unseen_congr (fun other => ?_) second
      have := any_identical.mp here
      simp only [List.mem_cons, List.mem_append]
      by_cases same : other = node <;> simp [same, this]
    · rw [ih, List.cons_append]
      congr 2
      refine unseen_congr (fun other => ?_) second
      simp only [List.mem_cons, List.mem_append]
      tauto

/-- If every node was seen before, none is left. -/
lemma unseen_eq_nil {seen nodes : List (TypeNode ρ)} (h : ∀ node ∈ nodes, node ∈ seen) :
    unseen seen nodes = [] := by
  rw [unseen_eq_filter, List.filter_eq_nil_iff]
  intro node here
  simp [h node (mem_firstOccurrences.mp here)]

/-! ## The walk with marks -/

/-- How the walk with marks stands when the walk without marks has listed the nodes `passed` and
has the queue `pending`. -/
structure Marks (passed pending seen queue : List (TypeNode ρ)) : Prop where
  /-- The queue holds what is pending and has not been listed, without repetitions. -/
  queue_eq : queue = unseen passed pending
  /-- Marked is what has been listed or is pending. -/
  mem_seen : ∀ node, node ∈ seen ↔ node ∈ passed ∨ node ∈ pending
  /-- The faces of what has been listed have been listed or are pending. -/
  face_mem : ∀ node ∈ passed, ∀ face ∈ node.faces, face ∈ passed ∨ face ∈ pending

namespace Marks

variable {node : TypeNode ρ} {passed pending seen queue : List (TypeNode ρ)}

/-- A node that has been listed before is passed over.  Its faces have been listed or are
pending, so the queue with marks stays as it is. -/
lemma pass (h : Marks passed (node :: pending) seen queue) (old : node ∈ passed) :
    Marks passed (pending ++ node.faces) seen queue := by
  have known : ∀ face ∈ node.faces, face ∈ passed ∨ face ∈ pending := by
    intro face hface
    rcases h.face_mem node old face hface with there | there
    · exact Or.inl there
    · rcases List.mem_cons.mp there with rfl | there
      · exact Or.inl old
      · exact Or.inr there
  refine ⟨?_, fun other => ?_, fun other hother face hface => ?_⟩
  · have nothing : unseen (pending ++ passed) node.faces = [] :=
      unseen_eq_nil fun face hface => List.mem_append.mpr (known face hface).symm
    rw [h.queue_eq, unseen, if_pos (any_identical.mpr old), unseen_append, nothing,
      List.append_nil]
  · rw [h.mem_seen, List.mem_cons, List.mem_append]
    constructor
    · rintro (there | rfl | there)
      exacts [Or.inl there, Or.inl old, Or.inr (Or.inl there)]
    · rintro (there | there | there)
      exacts [Or.inl there, Or.inr (Or.inr there), (known other there).imp id Or.inr]
  · rcases h.face_mem other hother face hface with there | there
    · exact Or.inl there
    · rcases List.mem_cons.mp there with rfl | there
      exacts [Or.inl old, Or.inr (List.mem_append_left _ there)]

/-- A node that has not been listed before is at the head of both queues.  It is listed, and its
new faces enter the queue with marks. -/
lemma list (h : Marks passed (node :: pending) seen queue) (new : node ∉ passed) :
    ∃ rest, queue = node :: rest ∧
      Marks (node :: passed) (pending ++ node.faces) (unseen seen node.faces ++ seen)
        (rest ++ unseen seen node.faces) := by
  refine ⟨unseen (node :: passed) pending, ?_, ?_, fun other => ?_,
    fun other hother face hface => ?_⟩
  · rw [h.queue_eq, unseen, if_neg (any_identical.not.mpr new)]
  · rw [unseen_append]
    congr 1
    refine unseen_congr (fun other => ?_) node.faces
    rw [h.mem_seen]
    simp only [List.mem_append, List.mem_cons]
    tauto
  · rw [List.mem_append, unseen_eq_filter, List.mem_filter, mem_firstOccurrences, h.mem_seen,
      Bool.not_eq_true', ← Bool.not_eq_true, any_identical, h.mem_seen]
    simp only [List.mem_append, List.mem_cons]
    tauto
  · rw [List.mem_cons, List.mem_append]
    rcases List.mem_cons.mp hother with rfl | hother
    · exact Or.inr (Or.inr hface)
    · rcases h.face_mem other hother face hface with there | there
      · exact Or.inl (Or.inr there)
      · rcases List.mem_cons.mp there with rfl | there
        exacts [Or.inl (Or.inl rfl), Or.inr (Or.inl there)]

end Marks

/-- The walk with marks lists what the walk without marks lists, without what has been listed
and without repetitions.

**Proof sketch.** Induction along the walk without marks.  A node that has been listed is passed
over there and not in the queue here; any other is listed by both. -/
theorem walk_eq_unseen_walkUnmarked {passed pending seen queue : List (TypeNode ρ)}
    (h : Marks passed pending seen queue) :
    walk seen queue = unseen passed (walkUnmarked pending) := by
  fun_induction walkUnmarked pending generalizing passed seen queue with
  | case1 => rw [h.queue_eq, unseen, walk]
  | case2 node pending ih =>
    by_cases old : node ∈ passed
    · rw [ih (h.pass old), unseen, if_pos (any_identical.mpr old)]
    · obtain ⟨rest, rfl, after⟩ := h.list old
      rw [walk, unseen, if_neg (any_identical.not.mpr old), ← ih after]

/-- The lineage is the list of the ends of all paths, each where it comes first. -/
theorem lineage_eq_firstOccurrences (node : TypeNode ρ) :
    node.lineage = firstOccurrences (node.facePaths.map (·.target)) := by
  have start : Marks [] [node] [node] [node] :=
    ⟨by simp [unseen], by simp, by simp⟩
  rw [lineage, walk_eq_unseen_walkUnmarked start, unseen_nil, facePaths,
    ← walkUnmarked_eq_levelsFrom, List.map_singleton, FacePath.start]

/-- The lineage holds what the node reaches and nothing else. -/
theorem mem_lineage {node other : TypeNode ρ} : other ∈ node.lineage ↔ node.Reaches other := by
  rw [lineage_eq_firstOccurrences, mem_firstOccurrences, List.mem_map, reaches_iff_exists_facePath]
  constructor
  · rintro ⟨path, -, there⟩
    exact ⟨path, there⟩
  · rintro ⟨path, there⟩
    exact ⟨path, mem_facePaths path, there⟩

/-- No node is in the lineage twice. -/
theorem nodup_lineage (node : TypeNode ρ) : node.lineage.Nodup := by
  rw [lineage_eq_firstOccurrences]
  exact nodup_firstOccurrences _

/-- Along the lineage the distance never decreases.

**Proof sketch.** Let `x` come before `y`.  The list of all paths has a path to `x` before which
no path leads to `y`.  A shortest path to `y` is in the list as well, behind that path, and
therefore is at least as long. -/
theorem pairwise_distance_lineage (node : TypeNode ρ) :
    node.lineage.Pairwise fun x y => node.distance x ≤ node.distance y := by
  rw [lineage_eq_firstOccurrences]
  refine (pairwise_firstOccurrences _).imp
    fun {x y} ⟨before, after, split, notBefore, _, there⟩ => ?_
  obtain ⟨earlier, others, paths, rfl, at_x⟩ := List.map_eq_append_iff.mp split
  obtain ⟨path, later, rfl, rfl, rfl⟩ := List.map_eq_cons_iff.mp at_x
  obtain ⟨_, -, reached⟩ := List.mem_map.mp there
  obtain ⟨shortest, rfl, length⟩ :=
    exists_length_eq_distance (reaches_iff_exists_facePath.mpr ⟨_, reached⟩)
  have ordered := node.pairwise_facePaths
  have listed := mem_facePaths shortest
  rw [paths] at ordered listed
  have behind : shortest ∈ path :: later := by
    refine (List.mem_append.mp listed).resolve_left fun early => ?_
    exact notBefore (List.mem_map.mpr ⟨shortest, early, rfl⟩)
  have longer : path.indices.length ≤ shortest.indices.length := by
    rcases List.mem_cons.mp behind with rfl | behind
    · exact Nat.le_refl _
    · have order := (List.pairwise_append.mp ordered).2.1
      have before := List.rel_of_pairwise_cons order behind
      rcases List.shortlex_def.mp before with less | ⟨same, -⟩ <;> omega
  have := distance_le path
  omega

/-- **The lineage lists the ends of all paths along faces.**  All paths are enumerated, shorter
ones first and equally long ones in lexicographic order of the indices of their faces; the
lineage has the end of each path where that node comes first.  So the node itself comes first,
what it reaches comes once and nothing else does, and the distance never decreases. -/
theorem lineage_eq_firstOccurrences_facePaths (node : TypeNode ρ) :
    (∀ path : FacePath node, path ∈ node.facePaths) ∧
    node.facePaths.Pairwise (fun p q => List.Shortlex (· < ·) p.indices q.indices) ∧
    node.lineage = firstOccurrences (node.facePaths.map (·.target)) ∧
    node.lineage.head? = some node ∧
    node.lineage.Nodup ∧
    (∀ other, other ∈ node.lineage ↔ node.Reaches other) ∧
    node.lineage.Pairwise (fun x y => node.distance x ≤ node.distance y) :=
  ⟨mem_facePaths, node.pairwise_facePaths, node.lineage_eq_firstOccurrences, node.head?_lineage,
    node.nodup_lineage, fun _ => mem_lineage, node.pairwise_distance_lineage⟩

end MultiDispatch.TypeNode
