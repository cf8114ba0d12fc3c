import Mathlib.Tactic.Lemma
import Mathlib.Tactic.Tauto
import MultiDispatch.Signature

set_option autoImplicit false
set_option relaxedAutoImplicit false

/-!
# Equality of types is an equivalence

Two nodes describe the same type if their templates, names and parameters agree, all the way
down; identical nodes are accepted without looking further.  Here the relation is tied to
equality of *bare descriptions*: the description of a node with its serial number, its faces and
its rules left out at every level.  Reflexivity, symmetry and transitivity, for nodes and for
lists of parameters, come from there at once, and so does every fact that only looks at bare
descriptions.

## Main definitions

* `MultiDispatch.TypeNode.bare`, `MultiDispatch.Param.bareAll` — bare descriptions.
* `MultiDispatch.TypeNode.alike`, `MultiDispatch.Param.allAlike` — the comparison without the
  test for identity, at any level.

## Main results

* `MultiDispatch.TypeNode.sameType_eq_alike` — the test for identity never changes the answer.
* `MultiDispatch.TypeNode.sameType_iff_bare`, `MultiDispatch.Param.sameParams_iff_bare` — the
  relations are equality of bare descriptions.
* `MultiDispatch.equivalence_sameType_sameParams` — they are equivalences, and the Boolean
  equalities of nodes, parameters, lists of parameters and signatures are these relations.
-/

namespace MultiDispatch

variable {ρ : Role → Type}

/-! ## Bare descriptions -/

mutual

/-- The bare description of a node: name, template and parameters are kept; serial number, faces
and rules are left out at every level. -/
def TypeNode.bare : TypeNode ρ → TypeNode ρ
  | ⟨_, name, template, params, _, _⟩ =>
    ⟨0, name, TypeNode.bareTemplate template, Param.bareAll params, [], {}⟩

/-- The bare description of a template, if there is one. -/
def TypeNode.bareTemplate : Option (TypeNode ρ) → Option (TypeNode ρ)
  | none => none
  | some node => some node.bare

/-- A parameter with every node in it described barely. -/
def Param.bare : Param ρ → Param ρ
  | .type node => .type node.bare
  | .integer n => .integer n
  | .string s => .string s
  | .boolean b => .boolean b
  | .list items => .list (Param.bareAll items)

/-- Parameters with every node in them described barely. -/
def Param.bareAll : List (Param ρ) → List (Param ρ)
  | [] => []
  | param :: rest => param.bare :: Param.bareAll rest

end

/-- Lists of parameters are described barely one by one. -/
lemma Param.bareAll_eq_map (params : List (Param ρ)) : Param.bareAll params = params.map .bare := by
  induction params with
  | nil => rfl
  | cons param rest ih => rw [Param.bareAll, ih, List.map_cons]

mutual

/-- A bare description is its own bare description. -/
theorem TypeNode.bare_bare : ∀ node : TypeNode ρ, node.bare.bare = node.bare
  | ⟨_, _, template, params, _, _⟩ => by
    have template_bare := TypeNode.bareTemplate_bareTemplate template
    have params_bare := Param.bareAll_bareAll params
    rw [TypeNode.bare, TypeNode.bare, template_bare, params_bare]

/-- The bare description of a template is its own bare description. -/
theorem TypeNode.bareTemplate_bareTemplate : ∀ template : Option (TypeNode ρ),
    TypeNode.bareTemplate (TypeNode.bareTemplate template) = TypeNode.bareTemplate template
  | none => rfl
  | some node => by rw [TypeNode.bareTemplate, TypeNode.bareTemplate, TypeNode.bare_bare node]

/-- A parameter described barely is its own bare description. -/
theorem Param.bare_bare : ∀ param : Param ρ, param.bare.bare = param.bare
  | .type node => by rw [Param.bare, Param.bare, TypeNode.bare_bare node]
  | .list items => by rw [Param.bare, Param.bare, Param.bareAll_bareAll items]
  | .integer _ | .string _ | .boolean _ => rfl

/-- Parameters described barely are their own bare descriptions. -/
theorem Param.bareAll_bareAll : ∀ params : List (Param ρ),
    Param.bareAll (Param.bareAll params) = Param.bareAll params
  | [] => rfl
  | param :: rest => by
    rw [Param.bareAll, Param.bareAll, Param.bare_bare param, Param.bareAll_bareAll rest]

end

/-! ## The comparison without the test for identity -/

mutual

/-- Whether templates, names and parameters of two nodes agree.  Unlike `TypeNode.sameType` this
never asks whether two nodes are identical. -/
def TypeNode.alike : TypeNode ρ → TypeNode ρ → Bool
  | ⟨_, name₁, template₁, params₁, _, _⟩, ⟨_, name₂, template₂, params₂, _, _⟩ =>
    TypeNode.templatesAlike template₁ template₂ && name₁ == name₂ &&
      Param.allAlike params₁ params₂

/-- Whether two optional templates are both absent or agree. -/
def TypeNode.templatesAlike : Option (TypeNode ρ) → Option (TypeNode ρ) → Bool
  | none, none => true
  | some a, some b => a.alike b
  | _, _ => false

/-- Whether two parameters agree. -/
def Param.alike : Param ρ → Param ρ → Bool
  | .type a, .type b => a.alike b
  | .list as, .list bs => Param.allAlike as bs
  | a, b => a.sameScalar b

/-- Whether two lists of parameters have the same length and agree item by item. -/
def Param.allAlike : List (Param ρ) → List (Param ρ) → Bool
  | [], [] => true
  | a :: as, b :: bs => a.alike b && Param.allAlike as bs
  | _, _ => false

end

mutual

/-- Nodes agree exactly if their bare descriptions are equal.

**Proof sketch.** Induction on the first node, together with its template, its parameters and
their items.  On both sides the templates, the names and the parameters are compared, and
nothing else. -/
theorem TypeNode.alike_iff_bare : ∀ a b : TypeNode ρ, a.alike b = true ↔ a.bare = b.bare
  | ⟨_, name₁, template₁, params₁, _, _⟩, ⟨_, name₂, template₂, params₂, _, _⟩ => by
    have templates := TypeNode.templatesAlike_iff_bare template₁ template₂
    have params := Param.allAlike_iff_bare params₁ params₂
    simp only [TypeNode.alike, TypeNode.bare, Bool.and_eq_true, beq_iff_eq, templates, params,
      TypeNode.mk.injEq, true_and, and_true]
    tauto

/-- Optional templates agree exactly if their bare descriptions are equal. -/
theorem TypeNode.templatesAlike_iff_bare : ∀ a b : Option (TypeNode ρ),
    TypeNode.templatesAlike a b = true ↔ TypeNode.bareTemplate a = TypeNode.bareTemplate b
  | none, none => by simp [TypeNode.templatesAlike]
  | some a, some b => by
    simp [TypeNode.templatesAlike, TypeNode.bareTemplate, TypeNode.alike_iff_bare a b]
  | none, some _ | some _, none => by simp [TypeNode.templatesAlike, TypeNode.bareTemplate]

/-- Parameters agree exactly if they are equal up to bare descriptions. -/
theorem Param.alike_iff_bare : ∀ a b : Param ρ, a.alike b = true ↔ a.bare = b.bare
  | .type a, .type b => by simp [Param.alike, Param.bare, TypeNode.alike_iff_bare a b]
  | .list as, .list bs => by simp [Param.alike, Param.bare, Param.allAlike_iff_bare as bs]
  | .integer _, .integer _ | .string _, .string _ | .boolean _, .boolean _ => by
    simp [Param.alike, Param.bare, Param.sameScalar]
  -- parameters of different kinds neither agree nor have equal descriptions
  | .type _, .integer _ | .type _, .string _ | .type _, .boolean _ | .type _, .list _
  | .integer _, .type _ | .integer _, .string _ | .integer _, .boolean _ | .integer _, .list _
  | .string _, .type _ | .string _, .integer _ | .string _, .boolean _ | .string _, .list _
  | .boolean _, .type _ | .boolean _, .integer _ | .boolean _, .string _ | .boolean _, .list _
  | .list _, .type _ | .list _, .integer _ | .list _, .string _ | .list _, .boolean _ => by
    simp [Param.alike, Param.bare, Param.sameScalar]

/-- Lists of parameters agree exactly if they are equal up to bare descriptions. -/
theorem Param.allAlike_iff_bare : ∀ as bs : List (Param ρ),
    Param.allAlike as bs = true ↔ Param.bareAll as = Param.bareAll bs
  | [], [] => by simp [Param.allAlike]
  | a :: as, b :: bs => by
    simp [Param.allAlike, Param.bareAll, Param.alike_iff_bare a b, Param.allAlike_iff_bare as bs]
  | [], _ :: _ | _ :: _, [] => by simp [Param.allAlike, Param.bareAll]

end

/-- A node agrees with itself. -/
@[simp] lemma TypeNode.alike_self (node : TypeNode ρ) : node.alike node = true :=
  (TypeNode.alike_iff_bare node node).mpr rfl

/-! ## The test for identity is only a shortcut -/

section SameType

variable [∀ role, DecidableEq (ρ role)]

/-- Asking first whether two nodes are identical does not change whether they agree: a node
agrees with itself. -/
lemma TypeNode.identical_or_alike (a b : TypeNode ρ) :
    (a.identical b || a.alike b) = a.alike b := by
  by_cases shared : a.identical b = true
  · have same : a = b := TypeNode.identical_iff.mp shared
    rw [same, TypeNode.alike_self, Bool.or_true]
  · rw [Bool.not_eq_true] at shared
    rw [shared, Bool.false_or]

mutual

/-- Two nodes describe the same type exactly if they agree without any test for identity.

**Proof sketch.** Induction on the first node.  By the induction hypotheses for template and
parameters, what is compared behind the test is `TypeNode.alike`, and in front of that the test
makes no difference. -/
theorem TypeNode.sameType_eq_alike : ∀ a b : TypeNode ρ, a.sameType b = a.alike b
  | ⟨_, _, template₁, params₁, _, _⟩, ⟨_, _, template₂, params₂, _, _⟩ => by
    have templates := TypeNode.sameTemplates_eq_alike template₁ template₂
    have params := Param.sameParams_eq_alike params₁ params₂
    rw [TypeNode.sameType, templates, params, ← TypeNode.alike, TypeNode.identical_or_alike]

/-- Optional templates are compared as without any test for identity. -/
theorem TypeNode.sameTemplates_eq_alike : ∀ a b : Option (TypeNode ρ),
    TypeNode.sameTemplates a b = TypeNode.templatesAlike a b
  | some a, some b => by
    rw [TypeNode.sameTemplates, TypeNode.templatesAlike, TypeNode.sameType_eq_alike a b]
  | none, none | none, some _ | some _, none => by
    simp only [TypeNode.sameTemplates, TypeNode.templatesAlike]

/-- Parameters are compared as without any test for identity. -/
theorem Param.agrees_eq_alike : ∀ a b : Param ρ, a.agrees b = a.alike b
  | .type a, .type b => by rw [Param.agrees, Param.alike, TypeNode.sameType_eq_alike a b]
  | .list as, .list bs => by rw [Param.agrees, Param.alike, Param.sameParams_eq_alike as bs]
  | .type _, .integer _ | .type _, .string _ | .type _, .boolean _ | .type _, .list _
  | .list _, .type _ | .list _, .integer _ | .list _, .string _ | .list _, .boolean _
  | .integer _, _ | .string _, _ | .boolean _, _ => by simp only [Param.agrees, Param.alike]

/-- Lists of parameters are compared as without any test for identity. -/
theorem Param.sameParams_eq_alike : ∀ as bs : List (Param ρ),
    Param.sameParams as bs = Param.allAlike as bs
  | a :: as, b :: bs => by
    rw [Param.sameParams, Param.allAlike, Param.agrees_eq_alike a b,
      Param.sameParams_eq_alike as bs]
  | [], [] | [], _ :: _ | _ :: _, [] => by simp only [Param.sameParams, Param.allAlike]

end

/-- Two nodes describe the same type exactly if their bare descriptions are equal. -/
lemma TypeNode.sameType_iff_bare {a b : TypeNode ρ} : a.sameType b = true ↔ a.bare = b.bare := by
  rw [TypeNode.sameType_eq_alike, TypeNode.alike_iff_bare]

/-- Two lists of parameters agree exactly if they are equal up to bare descriptions. -/
lemma Param.sameParams_iff_bare {as bs : List (Param ρ)} :
    Param.sameParams as bs = true ↔ Param.bareAll as = Param.bareAll bs := by
  rw [Param.sameParams_eq_alike, Param.allAlike_iff_bare]

/-- Two nodes describe the same type exactly if their templates, names and parameters agree. -/
lemma TypeNode.sameType_iff {a b : TypeNode ρ} :
    a.sameType b = true ↔ TypeNode.sameTemplates a.template b.template = true ∧
      a.name = b.name ∧ Param.sameParams a.params b.params = true := by
  rw [TypeNode.sameType_eq_alike, TypeNode.sameTemplates_eq_alike, Param.sameParams_eq_alike]
  cases a
  cases b
  rw [TypeNode.alike, Bool.and_eq_true, Bool.and_eq_true, beq_iff_eq, and_assoc]

/-- Describing the same type is symmetric. -/
lemma TypeNode.sameType_comm (a b : TypeNode ρ) : a.sameType b = b.sameType a := by
  rw [Bool.eq_iff_iff, TypeNode.sameType_iff_bare, TypeNode.sameType_iff_bare]
  exact eq_comm

/-- Describing the same type is transitive. -/
lemma TypeNode.sameType_trans {a b c : TypeNode ρ} (h₁ : a.sameType b = true)
    (h₂ : b.sameType c = true) : a.sameType c = true := by
  rw [TypeNode.sameType_iff_bare] at h₁ h₂ ⊢
  exact h₁.trans h₂

/-- Which nodes describe the same type as a given one depends on its type only. -/
lemma TypeNode.sameType_congr_right {b c : TypeNode ρ} (h : b.sameType c = true)
    (a : TypeNode ρ) : a.sameType b = a.sameType c := by
  rw [Bool.eq_iff_iff, TypeNode.sameType_iff_bare, TypeNode.sameType_iff_bare,
    TypeNode.sameType_iff_bare.mp h]

/-! ## The Boolean equalities -/

/-- Two parameters are equal as parameters exactly if they agree as items of lists. -/
lemma Param.beq_eq_agrees (a b : Param ρ) : (a == b) = a.agrees b := by
  change Param.sameParams [a] [b] = a.agrees b
  rw [Param.sameParams, Param.sameParams, Bool.and_true]

/-- Two lists of parameters are equal as lists exactly if they agree. -/
lemma Param.list_beq_eq_sameParams (as bs : List (Param ρ)) :
    (as == bs) = Param.sameParams as bs := by
  induction as generalizing bs with
  | nil => cases bs <;> simp [Param.sameParams]
  | cons a as ih =>
    cases bs with
    | nil => simp [Param.sameParams]
    | cons b bs => rw [List.cons_beq_cons, Param.beq_eq_agrees, ih, Param.sameParams]

/-- **Equality of types is an equivalence.**  Describing the same type and agreeing in all
parameters are equivalence relations; on all nodes and all lists of parameters they are what a
comparison without any test for identity finds; and the Boolean equalities of nodes, of
parameters, of lists of parameters and of signatures are these relations. -/
theorem equivalence_sameType_sameParams :
    Equivalence (fun a b : TypeNode ρ => a.sameType b = true) ∧
    Equivalence (fun as bs : List (Param ρ) => Param.sameParams as bs = true) ∧
    (∀ a b : TypeNode ρ, a.sameType b = a.alike b) ∧
    (∀ as bs : List (Param ρ), Param.sameParams as bs = Param.allAlike as bs) ∧
    (∀ a b : TypeNode ρ, (a == b) = a.sameType b) ∧
    (∀ a b : Param ρ, (a == b) = a.agrees b) ∧
    (∀ as bs : List (Param ρ), (as == bs) = Param.sameParams as bs) ∧
    (∀ as bs : List (Param ρ), (Signature.mk as == Signature.mk bs) = Param.sameParams as bs) := by
  refine ⟨⟨TypeNode.sameType_self, ?_, TypeNode.sameType_trans⟩, ⟨?_, ?_, ?_⟩,
    TypeNode.sameType_eq_alike, Param.sameParams_eq_alike, fun _ _ => rfl, Param.beq_eq_agrees,
    Param.list_beq_eq_sameParams, Param.list_beq_eq_sameParams⟩
  · intro a b h
    rwa [TypeNode.sameType_comm]
  · intro as
    exact Param.sameParams_iff_bare.mpr rfl
  · intro as bs h
    exact Param.sameParams_iff_bare.mpr (Param.sameParams_iff_bare.mp h).symm
  · intro as bs cs h₁ h₂
    rw [Param.sameParams_iff_bare] at h₁ h₂ ⊢
    exact h₁.trans h₂

end SameType

end MultiDispatch
