import Mathlib.Data.List.Sections
import MultiDispatch.Proofs.Shadowing

set_option autoImplicit false
set_option relaxedAutoImplicit false

/-!
# Alternatives are shorthand

For arguments that are types a slot with a list offers the types in the list, a slot with a type
offers this type, and a scalar offers nothing.  A signature can be spelled out as the signatures
that choose one offered type for each slot, and an overload as those with the same implementation
under the choices of its signature.  Spelling out overloads where they stand does not change which
implementation is found, because all that take the place of an overload have its implementation.

## Main definitions

* `MultiDispatch.Param.offeredTypes` — the types that a slot offers.
* `MultiDispatch.Signature.choices`, `MultiDispatch.Overload.choices` — one offered type for each
  slot, in all ways.
* `MultiDispatch.DispatchTable.replaceEach` — a table with overloads in the place of each overload.

## Main results

* `MultiDispatch.Signature.accepts_iff_exists_choice` — a signature accepts types exactly if one of
  its choices does.
* `MultiDispatch.find?_flatMap_eq` — the first match after replacing items where they stand.
* `MultiDispatch.DispatchTable.get_replaceEach_choices` — spelling out overloads changes nothing for
  arguments that are types.
-/

namespace MultiDispatch

variable {ρ : Role → Type}

/-! ## Choosing offered types -/

/-- The types that a slot offers: a type offers itself, a list those of its members that are types,
in order, and a scalar none. -/
def Param.offeredTypes : Param ρ → List (TypeNode ρ)
  | .type node => [node]
  | .list options => options.filterMap Param.toType?
  | .integer _ | .string _ | .boolean _ => []

namespace Signature

/-- The signatures with one offered type for each slot. -/
def choices (signature : Signature ρ) : List (Signature ρ) :=
  (signature.slots.map Param.offeredTypes).sections.map Signature.ofTypes

/-- A choice of a signature has a type for each slot that this slot offers. -/
lemma mem_choices_iff {signature choice : Signature ρ} :
    choice ∈ signature.choices ↔ ∃ faces,
      List.Forall₂ (fun face slot => face ∈ Param.offeredTypes slot) faces signature.slots ∧
        choice = ofTypes faces := by
  simp only [choices, List.mem_map, List.mem_sections, List.forall₂_map_right_iff, eq_comm]

/-- There is no choice exactly if a slot offers nothing.

**Proof sketch.** Induction on the slots: there is no choice if the first one offers nothing or
there is none for the others. -/
lemma choices_eq_nil_iff {signature : Signature ρ} :
    signature.choices = [] ↔ ∃ slot ∈ signature.slots, slot.offeredTypes = [] := by
  obtain ⟨slots⟩ := signature
  rw [choices, List.map_eq_nil_iff]
  induction slots with
  | nil => simp [List.sections]
  | cons slot slots ih =>
    simp only [List.exists_mem_cons_iff, ← ih, List.map_cons, List.sections,
      List.flatMap_eq_nil_iff, List.map_eq_nil_iff]
    constructor
    · intro none
      by_contra! some
      obtain ⟨chosen, there⟩ := List.exists_mem_of_ne_nil _ some.2
      exact some.1 (none chosen there)
    · rintro (nothing | nothing) chosen there
      · exact nothing
      · rw [nothing] at there
        cases there

end Signature

/-- The overloads with the same implementation under the choices of the signature. -/
def Overload.choices (overload : Overload ρ) : List (Overload ρ) :=
  overload.signature.choices.map fun signature => { overload with signature }

/-! ## Accepting types -/

section Accepting

variable [∀ role, DecidableEq (ρ role)]

/-- A type satisfies a slot exactly if it implements a type that the slot offers. -/
lemma Param.type_satisfies_iff {argument : TypeNode ρ} {slot : Param ρ} :
    (Param.type argument).satisfies slot = true ↔
      ∃ face ∈ slot.offeredTypes, argument.implements face = true := by
  cases slot with
  | type face => simp [satisfies, offeredTypes]
  | list options =>
    rw [satisfies, offeredTypes, List.any_eq_true]
    simp only [List.mem_filterMap]
    constructor
    · rintro ⟨option, listed, offers⟩
      cases option with
      | type face => exact ⟨face, ⟨_, listed, rfl⟩, offers⟩
      | integer _ | string _ | boolean _ | list _ => cases offers
    · rintro ⟨face, ⟨option, listed, is_type⟩, implements⟩
      cases option with
      | type node =>
        obtain rfl : node = face := Option.some.inj is_type
        exact ⟨_, listed, implements⟩
      | integer _ | string _ | boolean _ | list _ => cases is_type
  | integer _ | string _ | boolean _ => simp [satisfies, offeredTypes]

/-- Types satisfy slots exactly if they implement types that the slots offer, one by one. -/
lemma Param.types_allSatisfy_iff {types : List (TypeNode ρ)} {slots : List (Param ρ)} :
    Param.allSatisfy (types.map .type) slots = true ↔ ∃ faces,
      List.Forall₂ (fun face slot => face ∈ Param.offeredTypes slot) faces slots ∧
        List.Forall₂ (fun argument face => argument.implements face = true) types faces := by
  induction types generalizing slots with
  | nil => cases slots <;> simp [allSatisfy]
  | cons argument types ih =>
    cases slots with
    | nil => simp [allSatisfy]
    | cons slot slots =>
      rw [List.map_cons, allSatisfy, Bool.and_eq_true, type_satisfies_iff, ih]
      constructor
      · rintro ⟨⟨face, offered, implements⟩, faces, all_offered, all_implement⟩
        exact ⟨face :: faces, .cons offered all_offered, .cons implements all_implement⟩
      · rintro ⟨_, _ | ⟨offered, all_offered⟩, all_implement⟩
        obtain ⟨implements, all_implement⟩ := List.forall₂_cons.mp all_implement
        exact ⟨⟨_, offered, implements⟩, _, all_offered, all_implement⟩

/-- A signature accepts types exactly if one of its choices does. -/
theorem Signature.accepts_iff_exists_choice {signature : Signature ρ}
    {types : List (TypeNode ρ)} :
    signature.accepts (types.map .type) = true ↔
      ∃ choice ∈ signature.choices, choice.accepts (types.map .type) = true := by
  rw [accepts, Param.types_allSatisfy_iff]
  simp only [mem_choices_iff]
  constructor
  · rintro ⟨faces, offered, implement⟩
    exact ⟨_, ⟨faces, offered, rfl⟩, accepts_ofTypes_iff.mpr implement⟩
  · rintro ⟨_, ⟨faces, offered, rfl⟩, accepted⟩
    exact ⟨faces, offered, accepts_ofTypes_iff.mp accepted⟩

end Accepting

/-! ## Replacing where they stand -/

/-- If items are replaced where they stand by items with the same view, and some of the
replacements of an item match exactly if the item does, the first match has the same view.

**Proof sketch.** Induction on the items.  If the first item matches, so does one of its
replacements, and all of them have the same view; otherwise none of them matches. -/
theorem find?_flatMap_eq {α β γ : Type} {items : List α} {replacement : α → List β}
    {matches₁ : α → Bool} {matches₂ : β → Bool} {view₁ : α → γ} {view₂ : β → γ}
    (same_match : ∀ item, (replacement item).any matches₂ = matches₁ item)
    (same_view : ∀ item, ∀ other ∈ replacement item, view₂ other = view₁ item) :
    ((items.flatMap replacement).find? matches₂).map view₂ = (items.find? matches₁).map view₁ := by
  induction items with
  | nil => rfl
  | cons item items ih =>
    rw [List.flatMap_cons, List.find?_append, List.find?_cons, ← same_match, Option.map_or, ih]
    cases found : (replacement item).find? matches₂ with
    | none =>
      have none_matches : (replacement item).any matches₂ = false := by
        simpa [List.any_eq_false] using found
      rw [none_matches, Option.map_none, Option.none_or]
    | some other =>
      have one_matches : (replacement item).any matches₂ = true :=
        List.any_eq_true.mpr ⟨other, List.mem_of_find?_eq_some found, List.find?_some found⟩
      rw [one_matches, Option.map_some, Option.map_some, Option.some_or,
        same_view item other (List.mem_of_find?_eq_some found)]

/-- A map with its values changed and its keys where they are. -/
def InsertionMap.mapValues {κ α β : Type} (map : InsertionMap κ α) (change : α → β) :
    InsertionMap κ β :=
  ⟨map.entries.map fun entry => (entry.1, change entry.2)⟩

/-- The value of a key is changed if there is one. -/
lemma InsertionMap.get?_mapValues {κ α β : Type} [DecidableEq κ] (map : InsertionMap κ α)
    (change : α → β) (key : κ) : (map.mapValues change).get? key = (map.get? key).map change := by
  obtain ⟨entries⟩ := map
  simp only [mapValues, get?]
  induction entries with
  | nil => rfl
  | cons entry rest ih =>
    obtain ⟨k, value⟩ := entry
    by_cases here : k = key <;> simp [find?, here, ih]

namespace DispatchTable

/-- A table with other overloads in the place of each overload. -/
def replaceEach (table : DispatchTable ρ) (replacement : Overload ρ → List (Overload ρ)) :
    DispatchTable ρ :=
  ⟨table.groups.mapValues fun group => group.flatMap replacement⟩

/-- Each group of the table has its overloads replaced where they stand. -/
lemma overloads_replaceEach (table : DispatchTable ρ)
    (replacement : Overload ρ → List (Overload ρ)) (arity : Nat) :
    (table.replaceEach replacement).overloads arity =
      (table.overloads arity).flatMap replacement := by
  rw [overloads, overloads, replaceEach, InsertionMap.get?_mapValues]
  cases table.groups.get? arity <;> rfl

variable [∀ role, DecidableEq (ρ role)]

/-- The first match among overloads that are spelled out, each where it stands and in any order of
its choices, has the implementation of the first match among the overloads. -/
lemma find?_flatMap_choices {replacement : Overload ρ → List (Overload ρ)}
    (spelled : ∀ overload, (replacement overload).Perm overload.choices)
    (overloads : List (Overload ρ)) (types : List (TypeNode ρ)) :
    ((overloads.flatMap replacement).find? (·.signature.accepts (types.map .type))).map
        (·.implementation) =
      (overloads.find? (·.signature.accepts (types.map .type))).map (·.implementation) := by
  refine find?_flatMap_eq (fun overload => ?_) fun overload other there => ?_
  · -- whether some choice accepts does not depend on their order
    rw [(spelled overload).any_eq, Overload.choices, List.any_map, Bool.eq_iff_iff,
      List.any_eq_true, Signature.accepts_iff_exists_choice]
    rfl
  · obtain ⟨_, -, rfl⟩ := List.mem_map.mp ((spelled overload).mem_iff.mp there)
    rfl

/-- **Alternatives are shorthand.**  The choices of a signature have in each slot one of the types
that the slot offers; there are none exactly if some slot offers nothing.  If every overload of a
table, or of the history that makes it, is replaced where it stands by the overloads with the same
implementation under the choices of its signature, in any order of these, then every list of types
finds the same implementation as before or none as before. -/
theorem get_replaceEach_choices :
    (∀ signature choice : Signature ρ, choice ∈ signature.choices ↔ ∃ faces,
      List.Forall₂ (fun face slot => face ∈ Param.offeredTypes slot) faces signature.slots ∧
        choice = .ofTypes faces) ∧
    (∀ signature : Signature ρ,
      signature.choices = [] ↔ ∃ slot ∈ signature.slots, slot.offeredTypes = []) ∧
    (∀ replacement : Overload ρ → List (Overload ρ),
      (∀ overload, (replacement overload).Perm overload.choices) →
      (∀ (table : DispatchTable ρ) (types : List (TypeNode ρ)),
        (table.replaceEach replacement).get types = table.get types) ∧
      (∀ (history : List (Overload ρ)) (types : List (TypeNode ρ)),
        (ofOverloads (history.flatMap replacement)).get types =
          (ofOverloads history).get types)) := by
  refine ⟨fun _ _ => Signature.mem_choices_iff, fun _ => Signature.choices_eq_nil_iff,
    fun replacement spelled => ⟨fun table types => ?_, fun history types => ?_⟩⟩
  · rw [get, get, resolve, resolve, overloads_replaceEach]
    exact find?_flatMap_choices spelled _ types
  · rw [get, get, resolve_ofOverloads, resolve_ofOverloads]
    exact find?_flatMap_choices spelled history types

/-! ### Alternatives in reverse order -/

/-- An overload with alternatives for its first argument, one of which is not a type. -/
def broadOrLookalike : Overload fun _ => Empty where
  signature := ⟨[.list [.type broadType, .integer 1, .type lookalikeType], .type broadType]⟩
  implementation := (unitOverload 0 broadType).implementation

/-- With its choices in reverse order the overload is found through its second alternative. -/
theorem get_replaceEach_choices_reversed :
    (∀ overload : Overload fun _ => Empty, overload.choices.reverse.Perm overload.choices) ∧
    (ofOverloads ([broadOrLookalike].flatMap fun overload => overload.choices.reverse)).get
      [lookalikeType, narrowType] = some broadOrLookalike.implementation := by
  have spelled : ∀ overload : Overload fun _ => Empty,
      overload.choices.reverse.Perm overload.choices := fun overload => List.reverse_perm _
  refine ⟨spelled, ?_⟩
  rw [(get_replaceEach_choices.2.2 _ spelled).2, get, resolve_ofOverloads]
  simp [broadOrLookalike, Signature.accepts, Param.allSatisfy, Param.satisfies,
    Param.offersType, TypeNode.implements_of_sameType, narrowType_implements]

end DispatchTable

end MultiDispatch
