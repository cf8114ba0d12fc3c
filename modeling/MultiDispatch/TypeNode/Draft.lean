import MultiDispatch.TypeNode.Display

set_option autoImplicit false
set_option relaxedAutoImplicit false

/-!
# Drafts of types

A draft collects what a node will consist of.  It is filled by steps in any order and then built,
which checks it once: the node needs a name that is not empty, or a template together with
parameters; and unless it is abstract it needs a rule to write values and one to make them.

## Main definitions

* `MultiDispatch.Draft` — what a node will consist of.
* `MultiDispatch.Draft.Step`, `MultiDispatch.Draft.ofSteps` — the ways to fill a draft.
* `MultiDispatch.Draft.build` — the node of a draft, or why there is none.

## Main results

* `MultiDispatch.Draft.freeze_eq_ok_iff` — a draft is accepted if it is specified and usable.
-/

namespace MultiDispatch

variable {ρ : Role → Type}

/-- Whether an interface suffices: an abstract type may have any rules, a concrete one needs to
write its values and to make them from literals or from data. -/
def Interface.isUsable (interface : Interface ρ) : Bool :=
  interface.isAbstract ||
    (interface.stringify.isSome && (interface.parse.isSome || interface.create.isSome))

/-- What a node will consist of; at first nothing. -/
structure Draft (ρ : Role → Type) where
  name : Option String := none
  template : Option (TypeNode ρ) := none
  params : List (Param ρ) := []
  faces : List (TypeNode ρ) := []
  interface : Interface ρ := {}

namespace Draft

/-- The draft of a type with a name. -/
def named (name : String) : Draft ρ := { name := some name }

/-- The draft of a specialization.  The generic node is its template and its first face. -/
def specialization (template : TypeNode ρ) (params : List (Param ρ)) : Draft ρ :=
  { template := some template, params := params, faces := [template] }

/-! ## Filling a draft -/

/-- One step of filling a draft. -/
inductive Step (ρ : Role → Type) where
  /-- Starts over with a name. -/
  | named (name : String)
  /-- Starts over with a specialization. -/
  | specialization (template : TypeNode ρ) (params : List (Param ρ))
  /-- Replaces the name. -/
  | setName (name : Option String)
  /-- Replaces the template. -/
  | setTemplate (template : Option (TypeNode ρ))
  /-- Replaces the parameters. -/
  | setParams (params : List (Param ρ))
  /-- Replaces the faces. -/
  | setFaces (faces : List (TypeNode ρ))
  /-- Puts faces behind those there are. -/
  | addFaces (faces : List (TypeNode ρ))
  /-- Says whether the type is abstract. -/
  | setAbstract (isAbstract : Bool)
  /-- Replaces the rule that reads literals. -/
  | setParse (rule : Option (ρ .parse))
  /-- Replaces the rule that builds payloads. -/
  | setCreate (rule : Option (ρ .create))
  /-- Replaces the rule that writes payloads. -/
  | setStringify (rule : Option (ρ .stringify))
  /-- Replaces the rule that builds specializations. -/
  | setSpecialize (rule : Option (ρ .specialize))

/-- The draft after a step. -/
def step (draft : Draft ρ) : Step ρ → Draft ρ
  | .named name => Draft.named name
  | .specialization template params => Draft.specialization template params
  | .setName name => { draft with name }
  | .setTemplate template => { draft with template }
  | .setParams params => { draft with params }
  | .setFaces faces => { draft with faces }
  | .addFaces faces => { draft with faces := draft.faces ++ faces }
  | .setAbstract isAbstract => { draft with interface := { draft.interface with isAbstract } }
  | .setParse rule => { draft with interface := { draft.interface with parse := rule } }
  | .setCreate rule => { draft with interface := { draft.interface with create := rule } }
  | .setStringify rule => { draft with interface := { draft.interface with stringify := rule } }
  | .setSpecialize rule => { draft with interface := { draft.interface with specialize := rule } }

/-- The draft that a sequence of steps makes of the empty one. -/
def ofSteps (steps : List (Step ρ)) : Draft ρ := steps.foldl step {}

/-! ## Building a node -/

/-- Whether a draft says which type it describes: it has a name that is not empty, or a template
together with parameters. -/
def isSpecified (draft : Draft ρ) : Bool :=
  draft.name.any (· ≠ "") || (draft.template.isSome && !draft.params.isEmpty)

/-- The node that a draft describes, with a serial number.  An empty name counts as none. -/
def toNode (draft : Draft ρ) (serial : Serial) : TypeNode ρ where
  serial := serial
  name := draft.name.filter (· ≠ "")
  template := draft.template
  params := draft.params
  faces := draft.faces
  interface := draft.interface

/-- The node of a draft with a serial number, if the draft is specified and usable. -/
def freeze (draft : Draft ρ) (serial : Serial) : Except ConfigurationFault (TypeNode ρ) :=
  let node := draft.toNode serial
  if !draft.isSpecified then .error .unspecified
  else if !draft.interface.isUsable then .error (.incomplete node.display)
  else .ok node

/-- Builds a draft: the node gets the next serial number. -/
def build (draft : Draft ρ) : Minting ConfigurationFault (TypeNode ρ) := do
  let serial ← Fresh.serial
  Minting.ofExcept (draft.freeze serial)

/-- A draft is accepted exactly if it is specified and usable, and then it is built as it is. -/
theorem freeze_eq_ok_iff {draft : Draft ρ} {serial : Serial} {node : TypeNode ρ} :
    draft.freeze serial = .ok node ↔
      draft.isSpecified = true ∧ draft.interface.isUsable = true ∧ draft.toNode serial = node := by
  rw [freeze]
  cases draft.isSpecified <;> cases draft.interface.isUsable <;> simp

end Draft

end MultiDispatch
