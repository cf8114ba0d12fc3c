import MultiDispatch.Proofs.NearestFace
import MultiDispatch.Proofs.Reordering
import MultiDispatch.Proofs.Shadowing

set_option autoImplicit false
set_option relaxedAutoImplicit false

/-!
# Matching depends on the types described

A slot is satisfied or not whatever node stands in it for a type: only its bare description
counts.  This survives both readings of a list in a slot, as a set of alternatives and as a
pattern for a list argument, at every depth.  So lists of parameters that agree satisfy each other
and are interchangeable as constraints, and overloads whose signatures are equal can be exchanged
in any table.

## Main definitions

* `MultiDispatch.Overload.Equivalent` — the same implementation under equal signatures.

## Main results

* `MultiDispatch.Param.allSatisfy_bareAll` — slots count by their bare descriptions.
* `MultiDispatch.Param.allSatisfy_self` — parameters satisfy themselves.
* `MultiDispatch.DispatchTable.resolve_congr` — equivalent histories resolve arguments alike.
* `MultiDispatch.matching_respects_equality` — matching respects equality of parameters and
  signatures.
-/

namespace MultiDispatch

variable {ρ : Role → Type} [∀ role, DecidableEq (ρ role)]

/-! ## Slots and their bare descriptions -/

/-- A node implements a type exactly if it implements what is described barely. -/
lemma TypeNode.implements_bare (node other : TypeNode ρ) :
    node.implements other.bare = node.implements other := by
  have same : other.bare.sameType other = true := sameType_iff_bare.mpr other.bare_bare
  rw [implements, implements, findFace?_congr same]

/-- An alternative of a slot counts for types by its bare description. -/
lemma Param.offersType_bare (argument : TypeNode ρ) (option : Param ρ) :
    Param.offersType argument option.bare = Param.offersType argument option := by
  cases option with
  | type face => rw [Param.bare, offersType, offersType, TypeNode.implements_bare]
  | integer _ | string _ | boolean _ | list _ => rfl

omit [∀ role, DecidableEq (ρ role)] in
/-- An alternative of a slot counts for scalars by its bare description. -/
lemma Param.sameScalar_bare (argument option : Param ρ) :
    argument.sameScalar option.bare = argument.sameScalar option := by
  cases argument <;> cases option <;> rfl

omit [∀ role, DecidableEq (ρ role)] in
/-- Whether some alternative of a slot fits may be told from bare descriptions, if this holds for
each alternative. -/
lemma Param.any_bareAll {fits : Param ρ → Bool} (h : ∀ option, fits option.bare = fits option)
    (options : List (Param ρ)) : (Param.bareAll options).any fits = options.any fits := by
  rw [Param.bareAll_eq_map, List.any_map]
  congr 1
  funext option
  exact h option

mutual

/-- A slot is satisfied exactly if it is when described barely.

**Proof sketch.** Induction on the argument and the slot together.  A list in the slot is a set of
alternatives for a type or a scalar, each of which counts by its bare description; for a list
argument it is a list of slots again. -/
theorem Param.satisfies_bare : ∀ argument slot : Param ρ,
    argument.satisfies slot.bare = argument.satisfies slot
  | .type argument, .type face => by
    rw [Param.bare, Param.satisfies, Param.satisfies, TypeNode.implements_bare]
  | .type argument, .list options => by
    have alternatives := Param.any_bareAll (Param.offersType_bare argument) options
    rw [Param.bare, Param.satisfies, Param.satisfies, alternatives]
  | .list items, .list slots => by
    rw [Param.bare, Param.satisfies, Param.satisfies, Param.allSatisfy_bareAll items slots]
  | .integer _, .list options | .string _, .list options | .boolean _, .list options => by
    simp only [Param.bare, Param.satisfies]
    exact Param.any_bareAll (Param.sameScalar_bare _) options
  -- a scalar in the slot is its own bare description
  | _, .integer _ | _, .string _ | _, .boolean _ => by rw [Param.bare]
  | .list _, .type _ | .integer _, .type _ | .string _, .type _ | .boolean _, .type _ => by
    simp only [Param.bare, Param.satisfies, Param.sameScalar]

/-- Slots are satisfied exactly if they are when described barely. -/
theorem Param.allSatisfy_bareAll : ∀ arguments slots : List (Param ρ),
    Param.allSatisfy arguments (Param.bareAll slots) = Param.allSatisfy arguments slots
  | argument :: arguments, slot :: slots => by
    rw [Param.bareAll, Param.allSatisfy, Param.allSatisfy, Param.satisfies_bare argument slot,
      Param.allSatisfy_bareAll arguments slots]
  | [], [] | [], _ :: _ | _ :: _, [] => by simp only [Param.bareAll, Param.allSatisfy]

end

/-- Constraints that agree are satisfied by the same arguments. -/
lemma Param.allSatisfy_congr {slots slots' : List (Param ρ)}
    (h : Param.sameParams slots slots' = true) (arguments : List (Param ρ)) :
    Param.allSatisfy arguments slots = Param.allSatisfy arguments slots' := by
  rw [← allSatisfy_bareAll, sameParams_iff_bare.mp h, allSatisfy_bareAll]

/-! ## Parameters satisfy themselves -/

mutual

/-- A parameter satisfies itself as a slot. -/
theorem Param.satisfies_self : ∀ param : Param ρ, param.satisfies param = true
  | .type node => by
    rw [Param.satisfies, TypeNode.implements_of_sameType node.sameType_self]
  | .list items => by rw [Param.satisfies, Param.allSatisfy_self items]
  | .integer _ | .string _ | .boolean _ => by simp [Param.satisfies, Param.sameScalar]

/-- Parameters satisfy themselves as slots. -/
theorem Param.allSatisfy_self : ∀ params : List (Param ρ), Param.allSatisfy params params = true
  | [] => by rw [Param.allSatisfy]
  | param :: rest => by
    rw [Param.allSatisfy, Param.satisfies_self param, Param.allSatisfy_self rest, Bool.and_self]

end

/-- Parameters that agree satisfy each other. -/
lemma Param.allSatisfy_of_sameParams {as bs : List (Param ρ)} (h : Param.sameParams as bs = true) :
    Param.allSatisfy as bs = true := by
  rw [← allSatisfy_congr h, allSatisfy_self]

/-! ## Equal signatures -/

/-- Equal signatures accept the same arguments. -/
lemma Signature.accepts_congr {a b : Signature ρ} (h : (a == b) = true)
    (arguments : List (Param ρ)) : a.accepts arguments = b.accepts arguments := by
  have agree : Param.sameParams a.slots b.slots = true := by
    rwa [← Param.list_beq_eq_sameParams]
  exact Param.allSatisfy_congr agree arguments

/-- Two overloads are equivalent if they have the same implementation under equal signatures. -/
structure Overload.Equivalent (a b : Overload ρ) : Prop where
  signature_eq : (a.signature == b.signature) = true
  implementation_eq : a.implementation = b.implementation

/-- Histories of equivalent overloads resolve arguments alike.

**Proof sketch.** The first overload that accepts is found by induction on the histories: at each
position both overloads accept or both do not. -/
theorem DispatchTable.resolve_congr {first second : List (Overload ρ)}
    (h : List.Forall₂ Overload.Equivalent first second) (arguments : List (Param ρ)) :
    (ofOverloads first).resolve arguments = (ofOverloads second).resolve arguments := by
  rw [resolve_ofOverloads, resolve_ofOverloads]
  induction h with
  | nil => rfl
  | cons here _ ih =>
    rw [List.find?_cons, List.find?_cons, Signature.accepts_congr here.signature_eq]
    split
    · rw [Option.map_some, Option.map_some, here.implementation_eq]
    · exact ih

/-- **Matching respects equality.**  Lists of parameters that agree satisfy each other.  As
constraints they are satisfied by the same arguments.  And tables made by histories of the same
length, with the same implementations under equal signatures one by one, resolve all arguments and
all lists of types to the same implementation or to none. -/
theorem matching_respects_equality :
    (∀ as bs : List (Param ρ), Param.sameParams as bs = true →
      Param.allSatisfy as bs = true ∧ Param.allSatisfy bs as = true) ∧
    (∀ arguments slots slots' : List (Param ρ), Param.sameParams slots slots' = true →
      Param.allSatisfy arguments slots = Param.allSatisfy arguments slots') ∧
    (∀ first second : List (Overload ρ), List.Forall₂ Overload.Equivalent first second →
      (∀ arguments, (DispatchTable.ofOverloads first).resolve arguments =
        (DispatchTable.ofOverloads second).resolve arguments) ∧
      (∀ types, (DispatchTable.ofOverloads first).get types =
        (DispatchTable.ofOverloads second).get types)) := by
  refine ⟨fun as bs agree => ⟨Param.allSatisfy_of_sameParams agree, ?_⟩,
    fun arguments _ _ agree => Param.allSatisfy_congr agree arguments,
    fun first second equivalent => ⟨DispatchTable.resolve_congr equivalent, fun types => ?_⟩⟩
  · have back : Param.sameParams bs as = true :=
      Param.sameParams_iff_bare.mpr (Param.sameParams_iff_bare.mp agree).symm
    exact Param.allSatisfy_of_sameParams back
  · exact DispatchTable.resolve_congr equivalent _

/-! ### A lookalike among alternatives -/

/-- An overload that takes the number one or a type. -/
def oneOrType (face : TypeNode fun _ => Empty) : Overload fun _ => Empty :=
  DispatchTable.scalarOverload 0 (.list [.integer 1, .type face])

/-- The slots with the narrow type agree with those that have the lookalike in its place. -/
lemma oneOrType_slots_agree :
    Param.sameParams (oneOrType narrowType).signature.slots
      (oneOrType lookalikeType).signature.slots = true := by
  have agree : narrowType.sameType lookalikeType = true := by
    rw [TypeNode.sameType_comm, lookalikeType_sameType]
  simp [oneOrType, DispatchTable.scalarOverload, Param.sameParams, Param.agrees,
    Param.sameScalar, agree]

/-- With the lookalike in the place of the narrow type the overload is an equivalent one. -/
lemma oneOrType_equivalent :
    List.Forall₂ Overload.Equivalent [oneOrType narrowType] [oneOrType lookalikeType] :=
  .cons ⟨(Param.list_beq_eq_sameParams _ _).trans oneOrType_slots_agree, rfl⟩ .nil

/-- The slots that agree satisfy each other, they are both satisfied by the narrow type, and this
resolves to the overload in which its lookalike is an alternative. -/
theorem matching_respects_equality_lookalike :
    Param.sameParams (oneOrType narrowType).signature.slots
      (oneOrType lookalikeType).signature.slots = true ∧
    Param.allSatisfy (oneOrType lookalikeType).signature.slots
      (oneOrType narrowType).signature.slots = true ∧
    Param.allSatisfy [.type narrowType] (oneOrType lookalikeType).signature.slots = true ∧
    List.Forall₂ Overload.Equivalent [oneOrType narrowType] [oneOrType lookalikeType] ∧
    (DispatchTable.ofOverloads [oneOrType lookalikeType]).get [narrowType] =
      some (oneOrType narrowType).implementation := by
  obtain ⟨satisfied, congruence, tables⟩ := matching_respects_equality (ρ := fun _ => Empty)
  have accepts : (oneOrType narrowType).signature.accepts [.type narrowType] = true := by
    simp [oneOrType, DispatchTable.scalarOverload, Signature.accepts, Param.allSatisfy,
      Param.satisfies, Param.offersType, TypeNode.implements_of_sameType]
  refine ⟨oneOrType_slots_agree, (satisfied _ _ oneOrType_slots_agree).2,
    (congruence _ _ _ oneOrType_slots_agree).symm.trans accepts, oneOrType_equivalent, ?_⟩
  rw [← (tables _ _ oneOrType_equivalent).2, DispatchTable.get, DispatchTable.resolve_ofOverloads]
  simp [accepts]

end MultiDispatch
