import MultiDispatch.Proofs.Specializing

set_option autoImplicit false
set_option relaxedAutoImplicit false

/-!
# Parameters of specializations

What a rule for specializing returns is checked for its origin: the generic node has to be its
template and one of its faces.  Its parameters are not compared with those asked for.  They are
the ones that the rule has given it, and together with the name they tell the specializations of a
generic node apart.  A rule that builds on the draft of the specialization asked for and leaves its
parameters alone hands them on.

## Main definitions

* `MultiDispatch.Draft.Step.keepsParams` — the refining steps that leave the parameters alone.
* `MultiDispatch.Draft.Specializes` — a draft of a specialization without a name.
* `MultiDispatch.TypeNode.HandsOn` — the rule of a generic node builds on the draft of the
  specialization asked for.
* `MultiDispatch.BoxRule.fixed` — a rule that does not look at the parameters asked for.

## Main results

* `MultiDispatch.TypeNode.specialize_eq_ok_iff` — a specialization is what the rule returns, if
  that derives from the generic node.
* `MultiDispatch.TypeNode.sameType_iff_of_derivesFrom` — what tells specializations apart.
* `MultiDispatch.TypeNode.specialize_params` — the parameters of specializations.
* `MultiDispatch.TypeNode.fixed_params_not_asked_for` — not all rules hand the parameters on.
-/

namespace MultiDispatch

variable {ρ : Role → Type}

/-- Single integers agree as lists of parameters exactly if they are equal. -/
lemma Param.sameParams_integer [∀ role, DecidableEq (ρ role)] (m n : Int64) :
    Param.sameParams [.integer m] ([.integer n] : List (Param ρ)) = (m == n) := by
  simp only [sameParams, agrees, sameScalar, Bool.and_true]

/-! ## Drafts that keep their parameters -/

namespace Draft

/-- Whether a step refines a draft and leaves its parameters alone. -/
def Step.keepsParams : Step ρ → Bool
  | .setParams _ => false
  | step => step.refines

/-- The draft of a specialization: it derives from the generic node, has no name and has these
parameters. -/
structure Specializes (draft : Draft ρ) (generic : TypeNode ρ) (params : List (Param ρ)) : Prop
    extends draft.DerivesFrom generic where
  name_eq : draft.name = none
  params_eq : draft.params = params

/-- A step that keeps parameters leaves the draft of a specialization one. -/
lemma Specializes.step {draft : Draft ρ} {generic : TypeNode ρ} {params : List (Param ρ)}
    (h : draft.Specializes generic params) {step : Step ρ} (keeps : step.keepsParams = true) :
    (draft.step step).Specializes generic params := by
  cases step with
  | addFaces _ | setAbstract _ | setParse _ | setCreate _ | setStringify _ | setSpecialize _ =>
    exact ⟨h.toDerivesFrom.step keeps, h.name_eq, h.params_eq⟩
  | named _ | specialization _ _ | setName _ | setTemplate _ | setFaces _ | setParams _ =>
    cases keeps

/-- Steps that keep parameters make the draft of a specialization of the one asked for. -/
lemma specializes_foldl_step (generic : TypeNode ρ) (params : List (Param ρ))
    {steps : List (Step ρ)} (keep : ∀ step ∈ steps, step.keepsParams = true) :
    (steps.foldl step (specialization generic params)).Specializes generic params := by
  induction steps using List.reverseRecOn with
  | nil => exact ⟨derivesFrom_specialization generic params, rfl, rfl⟩
  | append_singleton steps last ih =>
    rw [List.foldl_append, List.foldl_cons, List.foldl_nil]
    have others := ih fun other there => keep other (List.mem_append_left _ there)
    exact others.step (keep last (List.mem_append_right _ List.mem_cons_self))

end Draft

namespace TypeNode

variable [∀ role, DecidableEq (ρ role)]

/-! ## What tells specializations apart -/

/-- Nodes that derive from the same generic node describe the same type exactly if their names are
equal and their parameters agree. -/
lemma sameType_iff_of_derivesFrom {a b generic : TypeNode ρ} (ha : a.derivesFrom generic = true)
    (hb : b.derivesFrom generic = true) :
    a.sameType b = true ↔ a.name = b.name ∧ Param.sameParams a.params b.params = true := by
  obtain ⟨⟨template_a, origin_a, same_a⟩, -⟩ := derivesFrom_iff.mp ha
  obtain ⟨⟨template_b, origin_b, same_b⟩, -⟩ := derivesFrom_iff.mp hb
  rw [sameType_comm] at same_b
  -- both templates describe the type of the generic node
  have templates : sameTemplates a.template b.template = true := by
    rw [origin_a, origin_b, sameTemplates]
    exact sameType_trans same_a same_b
  rw [sameType_iff, and_iff_right templates]

/-! ## Specializing -/

variable [Rulebook ρ]

/-- A node is the specialization of a generic one exactly if the rule returns it and it derives
from the generic node. -/
lemma specialize_eq_ok_iff {generic node : TypeNode ρ} {params : List (Param ρ)}
    {next after : Serial} :
    (generic.specialize params).runFrom next = (.ok node, after) ↔
      ∃ rule, generic.interface.specialize = some rule ∧
        (Interprets.specialize rule generic params).runFrom next = (.ok node, after) ∧
        node.derivesFrom generic = true := by
  constructor
  · intro yields
    have derives := derivesFrom_of_specialize yields
    cases has : generic.interface.specialize with
    | none => simp [specialize, has] at yields
    | some rule =>
      rw [runFrom_specialize has] at yields
      split at yields
      · next returned last returns =>
        obtain ⟨result, rfl⟩ := Prod.mk.inj yields
        by_cases accepted : returned.derivesFrom generic = true
        · rw [if_pos accepted, Except.ok.injEq] at result
          exact ⟨rule, rfl, result ▸ returns, derives⟩
        · rw [if_neg accepted] at result
          cases result
      · cases yields
  · rintro ⟨rule, has, returns, derives⟩
    rw [runFrom_specialize has, returns]
    simp only [derives, if_true]

/-- Whether the rule of a generic node hands on the parameters asked for, when `next` is the next
serial number: it starts from the draft of the specialization asked for, refines it in steps that
keep the parameters, and builds it. -/
def HandsOn (generic : TypeNode ρ) (params : List (Param ρ)) (next : Serial) : Prop :=
  ∃ (rule : ρ .specialize) (steps : List (Draft.Step ρ)) (start : Serial),
    generic.interface.specialize = some rule ∧ (∀ step ∈ steps, step.keepsParams = true) ∧
    (Interprets.specialize rule generic params).runFrom next =
      ((steps.foldl Draft.step (.specialization generic params)).build.mapFault
        TypeFault.configuration).runFrom start

/-- A specialization by a rule that hands on the parameters has these parameters and no name. -/
lemma HandsOn.params_eq {generic node : TypeNode ρ} {params : List (Param ρ)}
    {next after : Serial} (h : generic.HandsOn params next)
    (yields : (generic.specialize params).runFrom next = (.ok node, after)) :
    node.params = params ∧ node.name = none := by
  obtain ⟨rule, steps, start, has, keep, builds⟩ := h
  -- the draft is still that of the specialization asked for when it is frozen
  have draft := Draft.specializes_foldl_step generic params keep
  rw [runFrom_specialize_of_build has draft.toDerivesFrom builds] at yields
  cases frozen : (steps.foldl Draft.step (.specialization generic params)).freeze start with
  | error fault => simp [frozen, Except.mapError] at yields
  | ok built =>
    obtain ⟨-, -, rfl⟩ := Draft.freeze_eq_ok_iff.mp frozen
    obtain ⟨rfl, -⟩ : _ = node ∧ _ := by simpa [frozen, Except.mapError] using yields
    exact ⟨draft.params_eq, by simp [Draft.toNode, draft.name_eq]⟩

/-- **Specializations have the parameters that the rule gives them.**  What specializing yields is
the node that the rule returns, as it is, if this derives from the generic node.  Two
specializations describe the same type exactly if their names are equal and their own parameters
agree; so if both have the parameters asked for, these agree.  A rule that hands on the parameters
makes specializations without a name that have just these parameters, and two of them describe
the same type exactly if the parameters asked for agree. -/
theorem specialize_params (generic : TypeNode ρ) :
    (∀ params next node after, (generic.specialize params).runFrom next = (.ok node, after) ↔
      ∃ rule, generic.interface.specialize = some rule ∧
        (Interprets.specialize rule generic params).runFrom next = (.ok node, after) ∧
        node.derivesFrom generic = true) ∧
    (∀ params next node after, (generic.specialize params).runFrom next = (.ok node, after) →
      generic.HandsOn params next → node.params = params ∧ node.name = none) ∧
    (∀ params params' next next' node node' after after',
      (generic.specialize params).runFrom next = (.ok node, after) →
      (generic.specialize params').runFrom next' = (.ok node', after') →
      (node.sameType node' = true ↔
        node.name = node'.name ∧ Param.sameParams node.params node'.params = true) ∧
      (Param.sameParams node.params params = true → Param.sameParams node'.params params' = true →
        node.sameType node' = true → Param.sameParams params params' = true) ∧
      (generic.HandsOn params next → generic.HandsOn params' next' →
        (node.sameType node' = true ↔ Param.sameParams params params' = true))) := by
  refine ⟨fun _ _ _ _ => specialize_eq_ok_iff,
    fun _ _ _ _ yields handsOn => handsOn.params_eq yields,
    fun params params' next next' node node' after after' yields yields' => ?_⟩
  have apart := sameType_iff_of_derivesFrom (derivesFrom_of_specialize yields)
    (derivesFrom_of_specialize yields')
  refine ⟨apart, fun agree agree' same => ?_, fun handsOn handsOn' => ?_⟩
  · have between := (apart.mp same).2
    rw [Param.sameParams_iff_bare] at agree agree' between ⊢
    exact agree.symm.trans (between.trans agree')
  · obtain ⟨own, unnamed⟩ := handsOn.params_eq yields
    obtain ⟨own', unnamed'⟩ := handsOn'.params_eq yields'
    rw [apart, unnamed, unnamed', own, own', and_iff_right rfl]

end TypeNode

/-! ### A rule that hands on and a rule that does not -/

/-- Two rules for specializing. -/
inductive BoxRule : Role → Type where
  /-- Builds the abstract specialization with the parameters asked for. -/
  | handOn : BoxRule .specialize
  /-- Builds the abstract specialization with the parameter seven, whatever is asked for. -/
  | fixed : BoxRule .specialize
deriving DecidableEq

namespace BoxRule

/-- The parameters that a rule builds with. -/
def paramsOf : BoxRule .specialize → List (Param BoxRule) → List (Param BoxRule)
  | handOn, params => params
  | fixed, _ => [.integer 7]

instance : Rulebook BoxRule where
  parse rule := nomatch rule
  create rule := nomatch rule
  stringify rule := nomatch rule
  specialize rule base params :=
    ([Draft.Step.setAbstract true].foldl Draft.step
      (.specialization base (rule.paramsOf params))).build.mapFault .configuration

/-- A generic type of boxes with one of the rules. -/
def box (rule : BoxRule .specialize) : TypeNode BoxRule :=
  ⟨0, some "Box", none, [], [], { isAbstract := true, specialize := some rule }⟩

/-- The boxes with an integer as the parameter asked for. -/
def boxOf (rule : BoxRule .specialize) (n : Int64) (serial : Serial) : TypeNode BoxRule :=
  ⟨serial, none, some (box rule), rule.paramsOf [.integer n], [box rule], { isAbstract := true }⟩

/-- Boxes are specialized by an integer, whatever the rule. -/
lemma runFrom_specialize_box (rule : BoxRule .specialize) (n : Int64) (next : Serial) :
    ((box rule).specialize [.integer n]).runFrom next = (.ok (boxOf rule n next), next + 1) := by
  let draft : Draft BoxRule :=
    Draft.step (.specialization (box rule) (rule.paramsOf [.integer n])) (.setAbstract true)
  have derives : draft.DerivesFrom (box rule) := (Draft.derivesFrom_specialization _ _).step rfl
  have builds : (Interprets.specialize rule (box rule) [.integer n]).runFrom next =
      (draft.build.mapFault TypeFault.configuration).runFrom next := rfl
  rw [TypeNode.runFrom_specialize_of_build rfl derives builds]
  cases rule <;> rfl

/-- The first rule hands on the parameters asked for. -/
lemma handsOn_box (n : Int64) (next : Serial) : (box handOn).HandsOn [.integer n] next := by
  refine ⟨handOn, [.setAbstract true], next, rfl, fun step listed => ?_, rfl⟩
  rw [List.mem_singleton.mp listed]
  rfl

end BoxRule

namespace TypeNode

open BoxRule

/-- If the rule hands on the parameters, boxes of one and of two have them and are different
types. -/
theorem specialize_params_handOn :
    (box handOn).HandsOn [.integer 1] 1 ∧ (box handOn).HandsOn [.integer 2] 2 ∧
    ((box handOn).specialize [.integer 1]).runFrom 1 = (.ok (boxOf handOn 1 1), 2) ∧
    ((box handOn).specialize [.integer 2]).runFrom 2 = (.ok (boxOf handOn 2 2), 3) ∧
    (boxOf handOn 1 1).params = [.integer 1] ∧ (boxOf handOn 2 2).params = [.integer 2] ∧
    (boxOf handOn 1 1).sameType (boxOf handOn 2 2) = false := by
  have one := runFrom_specialize_box handOn 1 1
  have two := runFrom_specialize_box handOn 2 2
  obtain ⟨-, own, apart⟩ := specialize_params (box handOn)
  obtain ⟨-, -, apart⟩ := apart _ _ _ _ _ _ _ _ one two
  refine ⟨handsOn_box 1 1, handsOn_box 2 2, one, two, (own _ _ _ _ one (handsOn_box 1 1)).1,
    (own _ _ _ _ two (handsOn_box 2 2)).1, ?_⟩
  rw [← Bool.not_eq_true, apart (handsOn_box 1 1) (handsOn_box 2 2), Param.sameParams_integer]
  decide

/-- **Not every rule hands on the parameters asked for.**  With the other rule boxes of one and of
two are specialized alike: neither has the parameter asked for, and they are the same type, though
the parameters asked for do not agree. -/
theorem fixed_params_not_asked_for :
    ((box fixed).specialize [.integer 1]).runFrom 1 = (.ok (boxOf fixed 1 1), 2) ∧
    ((box fixed).specialize [.integer 2]).runFrom 2 = (.ok (boxOf fixed 2 2), 3) ∧
    Param.sameParams (boxOf fixed 1 1).params [.integer 1] = false ∧
    Param.sameParams (boxOf fixed 2 2).params [.integer 2] = false ∧
    (boxOf fixed 1 1).sameType (boxOf fixed 2 2) = true ∧
    Param.sameParams [.integer 1] ([.integer 2] : List (Param BoxRule)) = false := by
  have same : Param.sameParams (boxOf fixed 1 1).params (boxOf fixed 2 2).params = true :=
    Param.sameParams_integer 7 7
  refine ⟨runFrom_specialize_box fixed 1 1, runFrom_specialize_box fixed 2 2,
    Param.sameParams_integer 7 1, Param.sameParams_integer 7 2, ?_, Param.sameParams_integer 1 2⟩
  exact sameType_iff.mpr ⟨by simp [boxOf, sameTemplates], rfl, same⟩

end TypeNode

end MultiDispatch
