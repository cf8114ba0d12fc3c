import Mathlib.Tactic.Lemma
import MultiDispatch.Proofs.DraftRuns
import MultiDispatch.Proofs.Equality
import MultiDispatch.Proofs.Implementing
import MultiDispatch.TypeNode.Rulebook

set_option autoImplicit false
set_option relaxedAutoImplicit false

/-!
# Specializations derive from their generic node

A rule for specializing may return any node whatever.  What it returns is checked: the generic
node has to be its template and one of its faces, up to the type described.  The check is strong
enough that a specialization implements its generic node and is never mistaken for it, because
its template chain is longer by one.  And the check is not in the way: what is built from the
draft of a specialization, however the draft is refined, always passes.

## Main definitions

* `MultiDispatch.TypeNode.templateChain` — a node, its template, the template of that, and so on.
* `MultiDispatch.Draft.Step.refines` — the steps that leave the origin of a draft alone.
* `MultiDispatch.Draft.DerivesFrom` — the generic node is template and face of a draft.

## Main results

* `MultiDispatch.TypeNode.sameType_eq_false_of_derivesFrom` — a derived node is of another type
  than every node of the template chain.
* `MultiDispatch.Draft.derivesFrom_foldl_step` — refining keeps the origin.
* `MultiDispatch.TypeNode.specialize_guarantees` — what specializing yields and when it fails.
-/

namespace MultiDispatch

variable {ρ : Role → Type}

/-! ## Template chains -/

mutual

/-- The template chain of a node: the node itself, its template, the template of that, and so
on. -/
def TypeNode.templateChain : TypeNode ρ → List (TypeNode ρ)
  | node@⟨_, _, template, _, _, _⟩ => node :: TypeNode.chainOfTemplate template

/-- The template chain of a template, empty if there is none. -/
def TypeNode.chainOfTemplate : Option (TypeNode ρ) → List (TypeNode ρ)
  | none => []
  | some node => node.templateChain

end

namespace TypeNode

/-- The chain of a node goes on with that of its template. -/
lemma templateChain_eq (node : TypeNode ρ) :
    node.templateChain = node :: chainOfTemplate node.template := by
  cases node
  rw [templateChain]

mutual

/-- The template chain is as long as that of the bare description. -/
theorem length_templateChain_bare : ∀ node : TypeNode ρ,
    node.bare.templateChain.length = node.templateChain.length
  | ⟨_, _, template, _, _, _⟩ => by
    have rest := length_chainOfTemplate_bare template
    rw [TypeNode.bare, templateChain, templateChain, List.length_cons, List.length_cons, rest]

/-- The chain of a template is as long as that of its bare description. -/
theorem length_chainOfTemplate_bare : ∀ template : Option (TypeNode ρ),
    (chainOfTemplate (bareTemplate template)).length = (chainOfTemplate template).length
  | none => rfl
  | some node => by
    rw [bareTemplate, chainOfTemplate, chainOfTemplate, length_templateChain_bare node]

end

mutual

/-- The chains of the nodes on a template chain are no longer than the whole chain. -/
theorem length_templateChain_le {other : TypeNode ρ} : ∀ node : TypeNode ρ,
    other ∈ node.templateChain → other.templateChain.length ≤ node.templateChain.length
  | ⟨_, _, template, _, _, _⟩, h => by
    rw [templateChain, List.mem_cons] at h
    rcases h with rfl | there
    · exact Nat.le_refl _
    · have rest := length_chainOfTemplate_le template there
      conv_rhs => rw [templateChain, List.length_cons]
      omega

/-- The chains of the nodes on the chain of a template are no longer than the whole chain. -/
theorem length_chainOfTemplate_le {other : TypeNode ρ} : ∀ template : Option (TypeNode ρ),
    other ∈ chainOfTemplate template →
      other.templateChain.length ≤ (chainOfTemplate template).length
  | none, h => by
    rw [chainOfTemplate] at h
    cases h
  | some node, h => by
    rw [chainOfTemplate] at h ⊢
    exact length_templateChain_le node h

end

variable [∀ role, DecidableEq (ρ role)]

/-- Nodes of the same type have template chains of the same length. -/
lemma length_templateChain_eq {a b : TypeNode ρ} (h : a.sameType b = true) :
    a.templateChain.length = b.templateChain.length := by
  rw [← length_templateChain_bare a, sameType_iff_bare.mp h, length_templateChain_bare]

/-! ## Derived nodes -/

/-- A node derives from a generic one exactly if its template and one of its faces describe the
same type as the generic one. -/
lemma derivesFrom_iff {node generic : TypeNode ρ} :
    node.derivesFrom generic = true ↔
      (∃ template, node.template = some template ∧ template.sameType generic = true) ∧
      ∃ face ∈ node.faces, face.sameType generic = true := by
  rw [derivesFrom, Bool.and_eq_true, List.any_eq_true]
  refine and_congr_left' ?_
  cases node.template <;> simp

/-- A derived node implements every type that is the same as its generic node's. -/
lemma implements_of_derivesFrom {node generic other : TypeNode ρ}
    (derives : node.derivesFrom generic = true) (same : other.sameType generic = true) :
    node.implements other = true := by
  obtain ⟨-, face, listed, face_same⟩ := derivesFrom_iff.mp derives
  have reached : node.Reaches face := Relation.ReflTransGen.single listed
  have back : generic.sameType other = true := by rwa [sameType_comm]
  exact implements_iff_reaches.mpr ⟨face, reached, sameType_trans face_same back⟩

/-- The template chain of a derived node is longer by one than that of its generic node. -/
lemma length_templateChain_of_derivesFrom {node generic : TypeNode ρ}
    (derives : node.derivesFrom generic = true) :
    node.templateChain.length = generic.templateChain.length + 1 := by
  obtain ⟨⟨template, origin, same⟩, -⟩ := derivesFrom_iff.mp derives
  rw [templateChain_eq, origin, chainOfTemplate, List.length_cons, length_templateChain_eq same]

/-- A derived node is of another type than its generic node and everything on the template chain
of that.

**Proof sketch.** Nodes of the same type have template chains of the same length, and that of the
derived node is longer than any on the chain. -/
lemma sameType_eq_false_of_derivesFrom {node generic other : TypeNode ρ}
    (derives : node.derivesFrom generic = true) (onChain : other ∈ generic.templateChain) :
    node.sameType other = false := by
  rw [← Bool.not_eq_true]
  intro same
  have longer := length_templateChain_of_derivesFrom derives
  have equal := length_templateChain_eq same
  have bound := length_templateChain_le generic onChain
  omega

end TypeNode

/-! ## Refining a draft -/

namespace Draft

/-- Whether a step refines a draft: it neither starts over nor replaces name, template or faces.
It may make the type abstract, add faces, and set parameters and rules. -/
def Step.refines : Step ρ → Bool
  | .setAbstract _ | .addFaces _ | .setParams _ | .setParse _ | .setCreate _ | .setStringify _
  | .setSpecialize _ => true
  | .named _ | .specialization _ _ | .setName _ | .setTemplate _ | .setFaces _ => false

/-- A draft derives from a generic node that is its template and among its faces. -/
structure DerivesFrom (draft : Draft ρ) (generic : TypeNode ρ) : Prop where
  template_eq : draft.template = some generic
  mem_faces : generic ∈ draft.faces

/-- The draft of a specialization derives from the generic node. -/
lemma derivesFrom_specialization (generic : TypeNode ρ) (params : List (Param ρ)) :
    (specialization generic params).DerivesFrom generic :=
  ⟨rfl, List.mem_singleton_self generic⟩

/-- A refining step keeps the origin of a draft. -/
lemma DerivesFrom.step {draft : Draft ρ} {generic : TypeNode ρ} (h : draft.DerivesFrom generic)
    {step : Step ρ} (refines : step.refines = true) :
    (draft.step step).DerivesFrom generic := by
  cases step with
  | addFaces faces => exact ⟨h.template_eq, List.mem_append_left faces h.mem_faces⟩
  | setAbstract _ | setParams _ | setParse _ | setCreate _ | setStringify _ | setSpecialize _ =>
    exact ⟨h.template_eq, h.mem_faces⟩
  | named _ | specialization _ _ | setName _ | setTemplate _ | setFaces _ => cases refines

/-- Refining a draft in any number of steps keeps its origin. -/
lemma derivesFrom_foldl_step {draft : Draft ρ} {generic : TypeNode ρ}
    (h : draft.DerivesFrom generic) {steps : List (Step ρ)}
    (refine : ∀ step ∈ steps, step.refines = true) :
    (steps.foldl step draft).DerivesFrom generic := by
  induction steps generalizing draft with
  | nil => exact h
  | cons step steps ih =>
    exact ih (h.step (refine step List.mem_cons_self))
      fun other there => refine other (List.mem_cons_of_mem _ there)

/-- A draft is refused only as unspecified or as incomplete. -/
lemma freeze_ne_notDerived (draft : Draft ρ) (serial : Serial) (typeName specialized : String) :
    draft.freeze serial ≠ .error (.notDerived typeName specialized) := by
  rw [freeze]
  split
  · simp
  · split <;> simp

/-- The node of a draft derives from the origin of the draft. -/
lemma DerivesFrom.toNode [∀ role, DecidableEq (ρ role)] {draft : Draft ρ} {generic : TypeNode ρ}
    (h : draft.DerivesFrom generic) (serial : Serial) :
    (draft.toNode serial).derivesFrom generic = true :=
  TypeNode.derivesFrom_iff.mpr ⟨⟨generic, h.template_eq, generic.sameType_self⟩,
    generic, h.mem_faces, generic.sameType_self⟩

end Draft

/-! ## Specializing -/

namespace TypeNode

variable [∀ role, DecidableEq (ρ role)] [Rulebook ρ]

/-- Specializing runs the rule and checks what it returns. -/
lemma runFrom_specialize {generic : TypeNode ρ} {rule : ρ .specialize}
    (has : generic.interface.specialize = some rule) (params : List (Param ρ)) (next : Serial) :
    (generic.specialize params).runFrom next =
      match (Interprets.specialize rule generic params).runFrom next with
      | (.ok node, after) =>
        (if node.derivesFrom generic then .ok node
          else .error (.configuration (.notDerived generic.display node.display)), after)
      | (.error fault, after) => (.error fault, after) := by
  simp only [specialize, has, Minting.runFrom_bind]
  rcases (Interprets.specialize rule generic params).runFrom next with ⟨_ | node, after⟩
  · rfl
  · by_cases derives : node.derivesFrom generic = true <;> simp [derives]

/-- What specializing yields derives from the generic node.

**Proof sketch.** Without a rule it yields nothing, and with one the check stands between the
rule and the result. -/
lemma derivesFrom_of_specialize {generic node : TypeNode ρ} {params : List (Param ρ)}
    {next after : Serial} (h : (generic.specialize params).runFrom next = (.ok node, after)) :
    node.derivesFrom generic = true := by
  cases has : generic.interface.specialize with
  | none => simp [specialize, has] at h
  | some rule =>
    rw [runFrom_specialize has] at h
    split at h
    · next made _ _ =>
      obtain ⟨result, -⟩ := Prod.mk.inj h
      by_cases derives : made.derivesFrom generic = true
      · rw [if_pos derives, Except.ok.injEq] at result
        rwa [← result]
      · rw [if_neg derives] at result
        cases result
    · cases h

/-- A rule that builds from a refined draft of a specialization is never stopped by the check: the
result is that of the build. -/
lemma runFrom_specialize_of_build {generic : TypeNode ρ} {rule : ρ .specialize}
    (has : generic.interface.specialize = some rule) {params : List (Param ρ)}
    {next start : Serial} {draft : Draft ρ} (derives : draft.DerivesFrom generic)
    (builds : (Interprets.specialize rule generic params).runFrom next =
      (draft.build.mapFault TypeFault.configuration).runFrom start) :
    (generic.specialize params).runFrom next =
      ((draft.freeze start).mapError TypeFault.configuration, start + 1) := by
  rw [runFrom_specialize has, builds, Minting.runFrom_mapFault, Draft.runFrom_build]
  cases frozen : draft.freeze start with
  | error fault => rfl
  | ok node =>
    obtain ⟨-, -, rfl⟩ := Draft.freeze_eq_ok_iff.mp frozen
    simp only [derives.toNode start, if_true]
    rfl

/-- **Specializing is guarded, and the guard refuses nothing it should accept.**  Whatever the
rule does: what specializing yields has a template and a face of the generic node's type, it
implements that type, and it is of another type than the generic node and everything on its
template chain.  A rule that starts from the draft of a specialization, refines it in any way and
builds it is never refused: the result is the node built, or the fault of the build.  Without a
rule there is no specialization, and the fault of a rule is that of specializing. -/
theorem specialize_guarantees (generic : TypeNode ρ) (params : List (Param ρ)) (next : Serial) :
    (∀ node after, (generic.specialize params).runFrom next = (.ok node, after) →
      (∃ template, node.template = some template ∧ template.sameType generic = true) ∧
      (∃ face ∈ node.faces, face.sameType generic = true) ∧
      node.implements generic = true ∧
      (∀ other, other.sameType generic = true → node.implements other = true) ∧
      node.sameType generic = false ∧
      (∀ other ∈ generic.templateChain, node.sameType other = false)) ∧
    (∀ rule, generic.interface.specialize = some rule →
      ∀ (own : List (Param ρ)) (steps : List (Draft.Step ρ)) (start : Serial),
      (∀ step ∈ steps, step.refines = true) →
      (Interprets.specialize rule generic params).runFrom next =
        ((steps.foldl Draft.step (.specialization generic own)).build.mapFault
          TypeFault.configuration).runFrom start →
      (generic.specialize params).runFrom next =
        (((steps.foldl Draft.step (.specialization generic own)).freeze start).mapError
          TypeFault.configuration, start + 1) ∧
      ∀ typeName specialized, ((generic.specialize params).runFrom next).1 ≠
        .error (.configuration (.notDerived typeName specialized))) ∧
    (generic.interface.specialize = none →
      (generic.specialize params).runFrom next =
        (.error (.configuration (.notGeneric generic.display)), next)) ∧
    (∀ rule fault after, generic.interface.specialize = some rule →
      (Interprets.specialize rule generic params).runFrom next = (.error fault, after) →
      (generic.specialize params).runFrom next = (.error fault, after)) := by
  refine ⟨fun node after yields => ?_, fun rule has own steps start refine builds => ?_,
    fun none => ?_, fun rule fault after has fails => ?_⟩
  · have derives := derivesFrom_of_specialize yields
    have onChain : generic ∈ generic.templateChain := by
      rw [templateChain_eq]
      exact List.mem_cons_self
    obtain ⟨template, face⟩ := derivesFrom_iff.mp derives
    exact ⟨template, face, implements_of_derivesFrom derives generic.sameType_self,
      fun _ => implements_of_derivesFrom derives, sameType_eq_false_of_derivesFrom derives onChain,
      fun _ => sameType_eq_false_of_derivesFrom derives⟩
  · have derives := Draft.derivesFrom_foldl_step
      (Draft.derivesFrom_specialization generic own) refine
    have result := runFrom_specialize_of_build has derives builds
    refine ⟨result, fun typeName specialized => ?_⟩
    have never := Draft.freeze_ne_notDerived
      (steps.foldl Draft.step (.specialization generic own)) start typeName specialized
    rw [result]
    cases frozen : (steps.foldl Draft.step (.specialization generic own)).freeze start with
    | ok node => simp [Except.mapError]
    | error fault =>
      rw [frozen] at never
      simpa [Except.mapError] using never
  · rw [specialize, none]
    rfl
  · rw [runFrom_specialize has, fails]

end TypeNode

end MultiDispatch
