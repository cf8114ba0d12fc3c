import MultiDispatch.Proofs.FirstMatch
import MultiDispatch.Proofs.Implementing

set_option autoImplicit false
set_option relaxedAutoImplicit false

/-!
# Broad signatures shadow narrow ones

A signature is narrower than another if its types implement those of the other slot by slot.
When the broad signature comes first in a table, arguments that implement the narrow one mostly
implement the broad one as well, and the narrow one is never reached.

Lookalikes are the exception.  Whether a node describes a type does not depend on its faces, so
an argument may implement the narrow type through a node that describes it and yet, having other
faces, not implement the broad one.

## Main definitions

* `MultiDispatch.TypeNode.EvadesByLookalikes` — an argument implements a narrow type, but only
  through lookalikes of it that do not implement the broad one.
* `MultiDispatch.narrowType`, `MultiDispatch.lookalikeType` — a narrow type and a lookalike of it
  without the broad face.

## Main results

* `MultiDispatch.DispatchTable.get_identical_iff_evades` — the implementation under the narrow
  signature is found exactly for arguments that evade by lookalikes and that no other earlier
  signature accepts.
* `MultiDispatch.DispatchTable.lookalike_not_shadowed` — there are such arguments.
-/

namespace MultiDispatch

variable {ρ : Role → Type} [∀ role, DecidableEq (ρ role)]

/-! ## Lookalikes -/

/-- An argument evades a broad type by lookalikes of a narrow one: it implements the narrow type
and not the broad one, so each node it reaches that describes the narrow type is another node
than that type and does not implement the broad one. -/
structure TypeNode.EvadesByLookalikes (argument narrow broad : TypeNode ρ) : Prop where
  implements_narrow : argument.implements narrow = true
  not_implements_broad : argument.implements broad = false
  lookalike : ∀ current, argument.Reaches current → current.sameType narrow = true →
    current ≠ narrow ∧ current.implements broad = false

/-- An argument that implements a narrow type and not the broad one evades by lookalikes.

**Proof sketch.** A node it reaches that implements the broad type would make the argument
implement it too; the narrow type itself is such a node. -/
lemma TypeNode.evadesByLookalikes {argument narrow broad : TypeNode ρ}
    (narrower : narrow.implements broad = true) (h : argument.implements narrow = true)
    (not_broad : argument.implements broad = false) :
    argument.EvadesByLookalikes narrow broad where
  implements_narrow := h
  not_implements_broad := not_broad
  lookalike current reached _ := by
    have other : current.implements broad = false := by
      rw [← Bool.not_eq_true] at not_broad ⊢
      exact fun there => not_broad (TypeNode.implements_of_reaches reached there)
    refine ⟨?_, other⟩
    rintro rfl
    rw [narrower] at other
    exact absurd other.symm Bool.false_ne_true

/-- Arguments that implement narrow types one by one fail to implement the broad ones exactly if
one of them evades by lookalikes.

**Proof sketch.** Induction on the arguments: either the first one does not implement the first
broad type and evades, or it does and the others decide. -/
lemma not_forall₂_implements_iff {types narrow broad : List (TypeNode ρ)}
    (accepted : List.Forall₂ (fun t n => t.implements n = true) types narrow)
    (narrower : List.Forall₂ (fun n b => n.implements b = true) narrow broad) :
    ¬ List.Forall₂ (fun t b => t.implements b = true) types broad ↔
      ∃ t n b, (t, n, b) ∈ types.zip (narrow.zip broad) ∧ t.EvadesByLookalikes n b := by
  induction accepted generalizing broad with
  | nil =>
    cases narrower
    simp
  | @cons argument n types narrow first others ih =>
    cases narrower with
    | @cons _ b _ broad below rest =>
      rw [List.forall₂_cons]
      by_cases here : argument.implements b = true
      · rw [and_iff_right here, ih rest]
        constructor
        · rintro ⟨t, n', b', there, evades⟩
          exact ⟨t, n', b', List.mem_cons_of_mem _ there, evades⟩
        · rintro ⟨t, n', b', there, evades⟩
          rcases List.mem_cons.mp there with same | there
          · obtain ⟨rfl, rfl, rfl⟩ : t = argument ∧ n' = n ∧ b' = b := by simpa using same
            rw [evades.not_implements_broad] at here
            exact absurd here Bool.false_ne_true
          · exact ⟨t, n', b', there, evades⟩
      · have evades := TypeNode.evadesByLookalikes below first (Bool.not_eq_true _ ▸ here)
        exact iff_of_true (fun all => here all.1) ⟨argument, n, b, List.mem_cons_self, evades⟩

/-! ## A narrow type and a lookalike -/

/-- An abstract type with a name and faces and without rules. -/
def plainType (serial : Serial) (name : String) (faces : List (TypeNode fun _ => Empty)) :
    TypeNode fun _ => Empty :=
  ⟨serial, some name, none, [], faces, { isAbstract := true }⟩

/-- A broad type. -/
def broadType : TypeNode fun _ => Empty := plainType 0 "Broad" []

/-- A narrow type, which has the broad one as its face. -/
def narrowType : TypeNode fun _ => Empty := plainType 1 "Narrow" [broadType]

/-- A type described as the narrow one is, without faces. -/
def lookalikeType : TypeNode fun _ => Empty := plainType 2 "Narrow" []

/-- The narrow type implements the broad one. -/
lemma narrowType_implements : narrowType.implements broadType = true :=
  TypeNode.Reaches.implements (Relation.ReflTransGen.single List.mem_cons_self)

/-- The lookalike is the same type as the narrow one. -/
lemma lookalikeType_sameType : lookalikeType.sameType narrowType = true := by
  simp [lookalikeType, narrowType, plainType, TypeNode.sameType, TypeNode.sameTemplates,
    Param.sameParams]

/-- The lookalike implements the narrow type. -/
lemma lookalikeType_implements : lookalikeType.implements narrowType = true :=
  TypeNode.implements_of_sameType lookalikeType_sameType

/-- The lookalike does not implement the broad type. -/
lemma lookalikeType_not_implements : lookalikeType.implements broadType = false := by
  rw [← Bool.not_eq_true]
  simp [lookalikeType, broadType, plainType, TypeNode.implements, TypeNode.findFace?,
    TypeNode.lineage, TypeNode.walk, TypeNode.unseen, TypeNode.sameType]

/-! ## The only overload of an implementation -/

namespace DispatchTable

/-- An implementation that is added once is found exactly for arguments that its signature
accepts and no earlier one does. -/
lemma get_identical_iff {before after : List (Overload ρ)} {overload : Overload ρ}
    {g : Implementation ρ} (own : overload.implementation.identical g = true)
    (once : ∀ other ∈ before ++ after, other.implementation.identical g = false)
    (types : List (TypeNode ρ)) :
    (∃ found, (ofOverloads (before ++ overload :: after)).get types = some found ∧
        found.identical g = true) ↔
      overload.signature.accepts (types.map .type) = true ∧
      ∀ earlier ∈ before, earlier.signature.accepts (types.map .type) = false := by
  rw [get, resolve_ofOverloads, List.find?_append, List.find?_cons]
  constructor
  · rintro ⟨_, mapped, same⟩
    obtain ⟨first, found, rfl⟩ := Option.map_eq_some_iff.mp mapped
    clear mapped
    -- whatever is found among the others is not the implementation asked for
    have not_other : first ∉ before ++ after := fun other => by
      rw [once first other] at same
      exact absurd same Bool.false_ne_true
    rw [List.mem_append, not_or] at not_other
    cases early : before.find? (·.signature.accepts (types.map .type)) with
    | some earlier =>
      rw [early, Option.some_or, Option.some.injEq] at found
      exact absurd (List.mem_of_find?_eq_some early) (found ▸ not_other.1)
    | none =>
      rw [early, Option.none_or] at found
      refine ⟨?_, fun earlier here => by simpa using List.find?_eq_none.mp early earlier here⟩
      by_contra rejected
      rw [Bool.not_eq_true] at rejected
      rw [rejected] at found
      exact not_other.2 (List.mem_of_find?_eq_some found)
  · rintro ⟨accepts, rejects⟩
    have none_before : before.find? (·.signature.accepts (types.map .type)) = none := by
      rw [List.find?_eq_none]
      intro earlier here
      rw [rejects earlier here]
      exact Bool.false_ne_true
    exact ⟨overload.implementation, by rw [none_before, Option.none_or, accepts]; rfl, own⟩

/-- **A broad signature shadows a narrower one but for lookalikes.**  Let a broad signature be
added before a narrower one, whose implementation is added this once.  Whatever is added before,
between and after, the narrow one is found exactly for arguments that it accepts, no other
earlier signature accepts, and one of which evades the broad type of its slot by lookalikes of
the narrow one.

**Proof sketch.** The implementation is found exactly if its signature accepts and no earlier one
does.  The broad signature accepts nothing that the narrow one accepts unless one of the
arguments evades. -/
theorem get_identical_iff_evades {before between after : List (Overload ρ)}
    {broad narrow : List (TypeNode ρ)} {f g : Implementation ρ}
    (narrower : List.Forall₂ (fun n b => n.implements b = true) narrow broad)
    (once : ∀ other ∈ before ++ ⟨.ofTypes broad, f⟩ :: between ++ after,
      other.implementation.identical g = false)
    (types : List (TypeNode ρ)) :
    (∃ found, (ofOverloads (before ++ ⟨.ofTypes broad, f⟩ :: between ++
        ⟨.ofTypes narrow, g⟩ :: after)).get types = some found ∧ found.identical g = true) ↔
      (Signature.ofTypes narrow).accepts (types.map .type) = true ∧
      (∀ earlier ∈ before ++ between, earlier.signature.accepts (types.map .type) = false) ∧
      ∃ t n b, (t, n, b) ∈ types.zip (narrow.zip broad) ∧ t.EvadesByLookalikes n b := by
  have own : g.identical g = true := by rw [Implementation.identical, beq_self_eq_true]
  rw [get_identical_iff own once types]
  refine and_congr_right fun accepted => ?_
  rw [← not_forall₂_implements_iff (Signature.accepts_ofTypes_iff.mp accepted) narrower,
    ← Signature.accepts_ofTypes_iff, Bool.not_eq_true]
  simp only [List.mem_append, List.mem_cons]
  constructor
  · intro rejects
    exact ⟨fun earlier here => rejects earlier (here.imp id Or.inr),
      rejects ⟨.ofTypes broad, f⟩ (Or.inr (Or.inl rfl))⟩
  · rintro ⟨rejects, broad_rejects⟩ earlier (here | rfl | here)
    exacts [rejects earlier (Or.inl here), broad_rejects, rejects earlier (Or.inr here)]

/-! ## A lookalike that evades -/

/-- An implementation under a signature with one slot, which results in the unit. -/
def unitOverload (serial : Serial) (slot : TypeNode fun _ => Empty) : Overload fun _ => Empty :=
  ⟨.ofTypes [slot], ⟨serial, .constant slot, fun _ => .ok .unit⟩⟩

/-- The implementation under the narrow signature is another one than that under the broad
signature. -/
lemma identical_unitOverload : ∀ other ∈ [unitOverload 0 broadType],
    other.implementation.identical (unitOverload 1 narrowType).implementation = false := by
  intro other here
  rw [List.mem_singleton.mp here]
  rfl

/-- The lookalike finds the implementation under the narrow signature. -/
theorem get_identical_iff_evades_lookalikeType :
    List.Forall₂ (fun n b => TypeNode.implements n b = true) [narrowType] [broadType] ∧
    (∀ other ∈ [unitOverload 0 broadType],
      other.implementation.identical (unitOverload 1 narrowType).implementation = false) ∧
    ∃ found, (ofOverloads [unitOverload 0 broadType, unitOverload 1 narrowType]).get
        [lookalikeType] = some found ∧
      found.identical (unitOverload 1 narrowType).implementation = true := by
  have narrower : List.Forall₂ (fun n b => TypeNode.implements n b = true)
      [narrowType] [broadType] := .cons narrowType_implements .nil
  have found_iff := @get_identical_iff_evades _ _ [] [] [] [broadType] [narrowType]
    (unitOverload 0 broadType).implementation (unitOverload 1 narrowType).implementation
    narrower identical_unitOverload [lookalikeType]
  refine ⟨narrower, identical_unitOverload, found_iff.mpr ⟨?_, ?_, ?_⟩⟩
  · exact Signature.accepts_ofTypes_iff.mpr (.cons lookalikeType_implements .nil)
  · intro earlier here
    cases here
  · exact ⟨lookalikeType, narrowType, broadType, List.mem_cons_self,
      TypeNode.evadesByLookalikes narrowType_implements lookalikeType_implements
        lookalikeType_not_implements⟩

/-- **Lookalikes are not shadowed.**  That a broad signature is added first does not keep all
arguments from the implementation under a narrower one.

**Proof sketch.** The lookalike finds this implementation. -/
theorem lookalike_not_shadowed :
    ¬ ∀ (before between after : List (Overload fun _ => Empty))
        (broad narrow : List (TypeNode fun _ => Empty)) (f g : Implementation fun _ => Empty),
      List.Forall₂ (fun n b => TypeNode.implements n b = true) narrow broad →
      (∀ other ∈ before ++ ⟨.ofTypes broad, f⟩ :: between ++ after,
        other.implementation.identical g = false) →
      ∀ types found, (ofOverloads (before ++ ⟨.ofTypes broad, f⟩ :: between ++
          ⟨.ofTypes narrow, g⟩ :: after)).get types = some found → found.identical g = false := by
  intro shadowed
  have found : (ofOverloads [unitOverload 0 broadType, unitOverload 1 narrowType]).get
      [lookalikeType] = some (unitOverload 1 narrowType).implementation := by
    rw [get, resolve_ofOverloads]
    simp [unitOverload, Signature.accepts, Signature.ofTypes, Param.allSatisfy, Param.satisfies,
      lookalikeType_implements, lookalikeType_not_implements]
  have never := shadowed [] [] [] [broadType] [narrowType] _ _
    (.cons narrowType_implements .nil) identical_unitOverload [lookalikeType] _ found
  exact absurd never (by decide)

end DispatchTable

end MultiDispatch
