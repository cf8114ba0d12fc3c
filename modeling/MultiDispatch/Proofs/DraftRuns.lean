import Mathlib.Data.List.Induction
import Mathlib.Tactic.Lemma
import MultiDispatch.TypeNode.Draft

set_option autoImplicit false
set_option relaxedAutoImplicit false

/-!
# Runs of steps that fill a draft

A draft is filled by steps in any order.  Starting over gives every field a value, the other steps
give one to a single field; in the end a field has the value it was given last.  The faces are the
exception: some steps put faces behind those there are, so in the end the draft has the faces given
since they were replaced the last time, in the order of the steps.  Nothing else of a run is left in
the draft.

Building asks two things of the draft, one after the other: whether it says which type is meant, and
whether its rules suffice.

## Main definitions

* `MultiDispatch.Draft.Field` — the fields that hold a single value.
* `MultiDispatch.Draft.Step.given?` — the value that a step gives to a field.
* `MultiDispatch.Draft.lastGiven?` — the value that a run gives to a field last.
* `MultiDispatch.Draft.facesGiven` — the faces that a run gives since it replaced them.
* `MultiDispatch.Identifies`, `MultiDispatch.Interface.Suffices` — what building asks for.

## Main results

* `MultiDispatch.Draft.get_ofSteps`, `MultiDispatch.Draft.faces_ofSteps` — what a run leaves in the
  draft.
* `MultiDispatch.Draft.ofSteps_congr` — runs that give the same in the end leave the same draft.
* `MultiDispatch.Draft.outcome` — what building a draft comes to.
* `MultiDispatch.Draft.identifies_and_suffices_of_build` — what holds of every node that is built.
-/

namespace MultiDispatch

variable {ρ : Role → Type}

attribute [ext] Interface Draft

namespace Draft

/-! ## Fields with a single value -/

/-- The fields of a draft that hold a single value: all but the faces. -/
inductive Field where
  | name
  | template
  | params
  | isAbstract
  | parse
  | create
  | stringify
  | specialize

/-- What a field holds. -/
@[reducible] def Field.Value (ρ : Role → Type) : Field → Type
  | name => Option String
  | template => Option (TypeNode ρ)
  | params => List (Param ρ)
  | isAbstract => Bool
  | parse => Option (ρ .parse)
  | create => Option (ρ .create)
  | stringify => Option (ρ .stringify)
  | specialize => Option (ρ .specialize)

/-- The value of a field. -/
def get (draft : Draft ρ) : (field : Field) → field.Value ρ
  | .name => draft.name
  | .template => draft.template
  | .params => draft.params
  | .isAbstract => draft.interface.isAbstract
  | .parse => draft.interface.parse
  | .create => draft.interface.create
  | .stringify => draft.interface.stringify
  | .specialize => draft.interface.specialize

/-- Drafts with the same values and the same faces are equal. -/
lemma ext_get {a b : Draft ρ} (values : ∀ field, a.get field = b.get field)
    (faces : a.faces = b.faces) : a = b := by
  ext1
  · exact values .name
  · exact values .template
  · exact values .params
  · exact faces
  · ext1
    · exact values .isAbstract
    · exact values .parse
    · exact values .create
    · exact values .stringify
    · exact values .specialize

/-- What a field holds before anything is given to it. -/
def Field.unset : (field : Field) → field.Value ρ
  | name | template | parse | create | stringify | specialize => none
  | params => []
  | isAbstract => false

/-- The value that a step gives to a field, if it gives one.  Starting over sets the name, or the
template and the parameters, and undoes every other field. -/
def Step.given? : Step ρ → (field : Field) → Option (field.Value ρ)
  | .named name, .name => some (some name)
  | .specialization template _, .template => some (some template)
  | .specialization _ params, .params => some params
  | .named _, field | .specialization _ _, field => some field.unset
  | .setName name, .name => some name
  | .setTemplate template, .template => some template
  | .setParams params, .params => some params
  | .setAbstract isAbstract, .isAbstract => some isAbstract
  | .setParse rule, .parse => some rule
  | .setCreate rule, .create => some rule
  | .setStringify rule, .stringify => some rule
  | .setSpecialize rule, .specialize => some rule
  | _, _ => none

/-- A step changes a field exactly if it gives a value to it. -/
lemma get_step (draft : Draft ρ) (step : Step ρ) (field : Field) :
    (draft.step step).get field = (step.given? field).getD (draft.get field) := by
  cases step <;> cases field <;> rfl

/-- The value that a run gives to a field last, if it gives one. -/
def lastGiven? (steps : List (Step ρ)) (field : Field) : Option (field.Value ρ) :=
  (steps.filterMap (·.given? field)).getLast?

/-- In the end a field has the value it was given last; without one it is unset.

**Proof sketch.** Induction on the run from its end.  If the last step gives a value, this is the
last one given and the value of the field; otherwise both are as before the step. -/
theorem get_ofSteps (steps : List (Step ρ)) (field : Field) :
    (ofSteps steps).get field = (lastGiven? steps field).getD field.unset := by
  induction steps using List.reverseRecOn with
  | nil => cases field <;> rfl
  | append_singleton steps last ih =>
    have stepped : ofSteps (steps ++ [last]) = (ofSteps steps).step last := by
      unfold ofSteps
      rw [List.foldl_append, List.foldl_cons, List.foldl_nil]
    rw [stepped, get_step, ih, lastGiven?, lastGiven?, List.filterMap_append, List.getLast?_append]
    cases given : last.given? field <;> simp [given]

/-! ## Faces -/

/-- The faces that a step gives. -/
def Step.faces : Step ρ → List (TypeNode ρ)
  | .specialization template _ => [template]
  | .setFaces faces | .addFaces faces => faces
  | _ => []

/-- Whether the faces that a step gives replace those there are. -/
def Step.replacesFaces : Step ρ → Bool
  | .named _ | .specialization _ _ | .setFaces _ => true
  | _ => false

/-- A step that does not replace the faces puts those it gives behind them. -/
lemma faces_step (draft : Draft ρ) (step : Step ρ) :
    (draft.step step).faces =
      if step.replacesFaces then step.faces else draft.faces ++ step.faces := by
  cases step <;> simp [Draft.step, Step.replacesFaces, Step.faces, named, specialization]

/-- The steps from the last one on that replaces the faces, all of them if none does. -/
def sinceReplaced : List (Step ρ) → List (Step ρ)
  | [] => []
  | step :: rest => if rest.any (·.replacesFaces) then sinceReplaced rest else step :: rest

/-- The faces that a run gives since it replaced them the last time. -/
def facesGiven (steps : List (Step ρ)) : List (TypeNode ρ) :=
  (sinceReplaced steps).flatMap (·.faces)

/-- If no step replaces the faces, all steps count. -/
lemma sinceReplaced_eq_self {steps : List (Step ρ)}
    (none_replaces : steps.any (·.replacesFaces) = false) : sinceReplaced steps = steps := by
  cases steps with
  | nil => rfl
  | cons step rest =>
    rw [List.any_cons, Bool.or_eq_false_iff] at none_replaces
    rw [sinceReplaced, none_replaces.2, if_neg Bool.false_ne_true]

/-- Once a run replaces the faces, those it found do not matter; otherwise it adds to them. -/
lemma faces_foldl_step (draft : Draft ρ) (steps : List (Step ρ)) :
    (steps.foldl step draft).faces =
      if steps.any (·.replacesFaces) then facesGiven steps
      else draft.faces ++ facesGiven steps := by
  induction steps generalizing draft with
  | nil => simp [facesGiven, sinceReplaced]
  | cons first rest ih =>
    rw [List.foldl_cons, ih, faces_step, List.any_cons]
    cases later : rest.any (·.replacesFaces) with
    | true => simp [facesGiven, sinceReplaced, later]
    | false =>
      -- the first step is the only one that may replace the faces
      have others : sinceReplaced rest = rest := sinceReplaced_eq_self later
      cases here : first.replacesFaces <;>
        simp [facesGiven, sinceReplaced, later, others, List.append_assoc]

/-- In the end a draft has the faces given since they were replaced the last time. -/
theorem faces_ofSteps (steps : List (Step ρ)) : (ofSteps steps).faces = facesGiven steps := by
  have start : ({} : Draft ρ).faces = [] := rfl
  rw [ofSteps, faces_foldl_step, start, List.nil_append, ite_self]

/-- Runs that give the same values last, and the same faces, leave the same draft. -/
theorem ofSteps_congr {first second : List (Step ρ)}
    (values : ∀ field, lastGiven? first field = lastGiven? second field)
    (faces : facesGiven first = facesGiven second) : ofSteps first = ofSteps second := by
  apply ext_get
  · intro field
    rw [get_ofSteps, get_ofSteps, values]
  · rw [faces_ofSteps, faces_ofSteps, faces]

end Draft

/-! ## What building asks for -/

/-- Whether a name, a template and parameters say which type is meant: there is a name that is not
empty, or a template together with parameters. -/
def Identifies (name : Option String) (template : Option (TypeNode ρ)) (params : List (Param ρ)) :
    Prop :=
  (∃ text, name = some text ∧ text ≠ "") ∨ (template ≠ none ∧ params ≠ [])

/-- Whether the rules of a type suffice: it is abstract, or it has a rule to write values and one
to read them or to make them from data. -/
def Interface.Suffices (interface : Interface ρ) : Prop :=
  interface.isAbstract = true ∨
    (interface.stringify ≠ none ∧ (interface.parse ≠ none ∨ interface.create ≠ none))

/-- An interface passes the check of a build exactly if it suffices. -/
lemma Interface.isUsable_iff {interface : Interface ρ} :
    interface.isUsable = true ↔ interface.Suffices := by
  simp only [isUsable, Suffices, Bool.or_eq_true, Bool.and_eq_true, Option.isSome_iff_ne_none]

namespace Draft

/-- A draft passes the check of a build exactly if it says which type is meant. -/
lemma isSpecified_iff {draft : Draft ρ} :
    draft.isSpecified = true ↔ Identifies draft.name draft.template draft.params := by
  simp [isSpecified, Identifies, Option.any_eq_true, Option.isSome_iff_ne_none]

/-- Building a draft gives it the next serial number. -/
lemma runFrom_build (draft : Draft ρ) (next : Serial) :
    draft.build.runFrom next = (draft.freeze next, next + 1) := rfl

/-- A build succeeds exactly if the draft says which type is meant and its rules suffice; the node
is that of the draft. -/
lemma runFrom_build_eq_ok_iff {draft : Draft ρ} {next after : Serial} {node : TypeNode ρ} :
    draft.build.runFrom next = (.ok node, after) ↔
      Identifies draft.name draft.template draft.params ∧ draft.interface.Suffices ∧
        draft.toNode next = node ∧ next + 1 = after := by
  rw [runFrom_build, Prod.mk.injEq, freeze_eq_ok_iff, isSpecified_iff, Interface.isUsable_iff,
    and_assoc, and_assoc]

/-- Every node that is built says which type is meant, and its rules suffice. -/
theorem identifies_and_suffices_of_build {draft : Draft ρ} {next after : Serial} {node : TypeNode ρ}
    (built : draft.build.runFrom next = (.ok node, after)) :
    Identifies node.name node.template node.params ∧ node.interface.Suffices := by
  obtain ⟨identified, sufficient, rfl, -⟩ := runFrom_build_eq_ok_iff.mp built
  refine ⟨?_, sufficient⟩
  rcases identified with ⟨text, named, not_empty⟩ | specialized
  · left
    exact ⟨text, by simp [toNode, named, not_empty], not_empty⟩
  · right
    exact specialized

/-- What building a draft comes to when `next` is the next serial number. -/
structure Outcome (draft : Draft ρ) (next : Serial) : Prop where
  /-- It succeeds exactly if the draft says which type is meant and its rules suffice. -/
  succeeds_iff : (∃ node, draft.build.runFrom next = (.ok node, next + 1)) ↔
    Identifies draft.name draft.template draft.params ∧ draft.interface.Suffices
  /-- A draft that does not say which type is meant fails for this, whatever its rules. -/
  unspecified : ¬ Identifies draft.name draft.template draft.params →
    draft.build.runFrom next = (.error .unspecified, next + 1)
  /-- If only the rules do not suffice, the failure names what would have been built. -/
  incomplete : Identifies draft.name draft.template draft.params → ¬ draft.interface.Suffices →
    draft.build.runFrom next = (.error (.incomplete (draft.toNode next).display), next + 1)
  /-- The node built is the draft, with an empty name left out. -/
  stored : ∀ node after, draft.build.runFrom next = (.ok node, after) →
    node = ⟨next, if draft.name = some "" then none else draft.name, draft.template, draft.params,
      draft.faces, draft.interface⟩

/-- Every draft is built or refused as it should be. -/
theorem outcome (draft : Draft ρ) (next : Serial) : draft.Outcome next where
  succeeds_iff := by
    constructor
    · rintro ⟨node, built⟩
      obtain ⟨identified, sufficient, -⟩ := runFrom_build_eq_ok_iff.mp built
      exact ⟨identified, sufficient⟩
    · rintro ⟨identified, sufficient⟩
      exact ⟨_, runFrom_build_eq_ok_iff.mpr ⟨identified, sufficient, rfl, rfl⟩⟩
  unspecified := by
    intro unidentified
    rw [← isSpecified_iff] at unidentified
    rw [runFrom_build, freeze]
    simp [unidentified]
  incomplete := by
    intro identified insufficient
    rw [← isSpecified_iff] at identified
    rw [← Interface.isUsable_iff] at insufficient
    rw [runFrom_build, freeze]
    simp [identified, insufficient]
  stored := by
    intro node after built
    obtain ⟨-, -, rfl, -⟩ := runFrom_build_eq_ok_iff.mp built
    cases named : draft.name with
    | none => simp [toNode, named]
    | some name => by_cases empty : name = "" <;> simp [toNode, named, empty]

end Draft

end MultiDispatch
