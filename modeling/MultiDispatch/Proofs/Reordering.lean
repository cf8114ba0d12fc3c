import Mathlib.Logic.Equiv.Basic
import Mathlib.Order.Fin.Basic
import MultiDispatch.Proofs.FirstMatch

set_option autoImplicit false
set_option relaxedAutoImplicit false

/-!
# The order of registration

Of several overloads that accept some arguments the first one is taken, so the order in which
overloads are added matters.  It only matters between overloads that can compete: if no arguments
are accepted by both of two signatures, either of them may come first.

## Main definitions

* `MultiDispatch.Signature.Overlaps` — two signatures accept some arguments in common.
* `MultiDispatch.Reordering` — a history in another order, in which overloads whose signatures
  overlap have kept theirs.

## Main results

* `MultiDispatch.find?_eq_of_position` — the first match depends on the order of the matches only.
* `MultiDispatch.DispatchTable.resolve_order` — reordering does not change what arguments resolve
  to, and later additions do not change what has been resolved.
-/

namespace MultiDispatch

/-! ## The first match of a list in another order -/

section FirstMatch

variable {α : Type}

/-- The first match of a list is the item at a position in front of which nothing matches. -/
lemma find?_eq_some_iff_get {items : List α} {matching : α → Bool} {item : α} :
    items.find? matching = some item ↔ matching item = true ∧
      ∃ i : Fin items.length, items.get i = item ∧ ∀ j < i, matching (items.get j) = false := by
  simp only [List.find?_eq_some_iff_getElem, Fin.exists_iff, Fin.forall_iff, Fin.mk_lt_mk,
    List.get_eq_getElem, Bool.not_eq_true']
  refine and_congr_right fun _ => exists_congr fun i => exists_congr fun bound => ?_
  exact and_congr_right fun _ =>
    ⟨fun h j _ less => h j less, fun h j less => h j (Nat.lt_trans less bound) less⟩

/-- If the items of a list are put into other positions and those which match keep their order,
the first match stays the first.

**Proof sketch.** Let an item match in front of the new position of the first match.  It was not
the first match itself, and it was not in front of it, where nothing matches.  So it was behind
it, and then it is behind it still. -/
lemma find?_eq_of_position {first second : List α} {matching : α → Bool}
    (position : Fin first.length ≃ Fin second.length)
    (moves : ∀ i, second.get (position i) = first.get i)
    (keeps : ∀ i j, i < j → matching (first.get i) = true → matching (first.get j) = true →
      position i < position j) :
    first.find? matching = second.find? matching := by
  have origin : ∀ k, second.get k = first.get (position.symm k) := fun k => by
    rw [← moves, Equiv.apply_symm_apply]
  cases found : first.find? matching with
  | none =>
    rw [List.find?_eq_none] at found
    refine (List.find?_eq_none.mpr fun item listed => ?_).symm
    obtain ⟨k, rfl⟩ := List.mem_iff_get.mp listed
    rw [origin]
    exact found _ (List.get_mem first _)
  | some item =>
    obtain ⟨holds, i, rfl, earlier⟩ := find?_eq_some_iff_get.mp found
    refine (find?_eq_some_iff_get.mpr ⟨holds, position i, moves i, fun k before => ?_⟩).symm
    obtain ⟨j, rfl⟩ := position.surjective k
    rw [moves, ← Bool.not_eq_true]
    intro holds'
    rcases lt_trichotomy j i with less | rfl | behind
    · rw [earlier j less] at holds'
      exact Bool.false_ne_true holds'
    · exact lt_irrefl _ before
    · exact lt_asymm before (keeps i j behind holds holds')

end FirstMatch

/-! ## Reordering a history -/

variable {ρ : Role → Type} [∀ role, DecidableEq (ρ role)]

/-- Two signatures overlap if both of them accept some arguments. -/
def Signature.Overlaps (a b : Signature ρ) : Prop :=
  ∃ arguments, a.accepts arguments = true ∧ b.accepts arguments = true

/-- A history in another order.  Every overload goes to a position of its own, and of two
overloads whose signatures overlap the one that came first still does. -/
structure Reordering (first second : List (Overload ρ)) where
  /-- Where an overload goes. -/
  position : Fin first.length ≃ Fin second.length
  moves : ∀ i, second.get (position i) = first.get i
  keeps : ∀ i j, i < j → (first.get i).signature.Overlaps (first.get j).signature →
    position i < position j

namespace DispatchTable

/-- A history in another order resolves arguments as before.

**Proof sketch.** Overloads that accept the arguments overlap and keep their order, so the first
of them stays the first. -/
lemma resolve_eq_of_reordering {first second : List (Overload ρ)}
    (reordering : Reordering first second) (arguments : List (Param ρ)) :
    (ofOverloads first).resolve arguments = (ofOverloads second).resolve arguments := by
  rw [resolve_ofOverloads, resolve_ofOverloads]
  congr 1
  exact find?_eq_of_position reordering.position reordering.moves fun i j less here there =>
    reordering.keeps i j less ⟨arguments, here, there⟩

/-- **The order of registration matters between overlapping signatures only.**  If a history is
put into another order in which overloads with overlapping signatures keep theirs, all arguments
and all lists of types resolve to the same implementation as before or to none as before.  And
once arguments resolve, they resolve to the same implementation after any further additions;
arguments that do not get the implementation of the next addition exactly if its signature
accepts them. -/
theorem resolve_order :
    (∀ first second : List (Overload ρ), Reordering first second →
      (∀ arguments, (ofOverloads first).resolve arguments =
        (ofOverloads second).resolve arguments) ∧
      (∀ types, (ofOverloads first).get types = (ofOverloads second).get types)) ∧
    (∀ (table : DispatchTable ρ) (arguments : List (Param ρ)),
      (∀ (later : List (Overload ρ)) (winner : Implementation ρ),
        table.resolve arguments = some winner →
        (later.foldl addOverload table).resolve arguments = some winner) ∧
      (∀ (signature : Signature ρ) (next : Implementation ρ),
        table.resolve arguments = none →
        (table.add signature next).resolve arguments =
          if signature.accepts arguments = true then some next else none)) := by
  refine ⟨fun first second reordering => ⟨resolve_eq_of_reordering reordering, fun types => ?_⟩,
    fun table arguments => ⟨fun later winner found => ?_, fun signature next none_found => ?_⟩⟩
  · exact resolve_eq_of_reordering reordering _
  · rw [resolve_foldl_addOverload, found, Option.some_or]
  · rw [add, resolve_addOverload, none_found, Option.none_or]

/-! ### Scalars that exclude each other -/

/-- An implementation under a signature with one slot, which results in the unit. -/
def scalarOverload (serial : Serial) (slot : Param fun _ => Empty) : Overload fun _ => Empty :=
  ⟨⟨[slot]⟩, ⟨serial, .constant ⟨0, some "Unit", none, [], [], {}⟩, fun _ => .ok .unit⟩⟩

/-- Two different integers have no argument in common. -/
lemma not_overlaps_integers {m n : Int64} (differ : m ≠ n) :
    ¬ (⟨[.integer m]⟩ : Signature fun _ => Empty).Overlaps ⟨[.integer n]⟩ := by
  rintro ⟨arguments, first, second⟩
  rcases arguments with _ | ⟨argument, _ | _⟩
  · cases first
  · cases argument <;> simp [Signature.accepts, Param.allSatisfy, Param.satisfies,
      Param.sameScalar] at first second
    exact differ (first.symm.trans second)
  · simp [Signature.accepts, Param.allSatisfy] at first

/-- Overloads for one, for two and for either of them, with the first two exchanged. -/
def exchanged :
    Reordering
      [scalarOverload 0 (.integer 1), scalarOverload 1 (.integer 2),
        scalarOverload 2 (.list [.integer 1, .integer 2])]
      [scalarOverload 1 (.integer 2), scalarOverload 0 (.integer 1),
        scalarOverload 2 (.list [.integer 1, .integer 2])] where
  position := Equiv.swap (0 : Fin 3) 1
  moves i := by
    match i with
    | 0 | 1 | 2 => rfl
  keeps i j less overlap := by
    match i, j with
    | 0, 1 => exact absurd overlap (not_overlaps_integers (by decide))
    | 0, 2 | 1, 2 => decide
    | 0, 0 | 1, 1 | 2, 2 | 1, 0 | 2, 0 | 2, 1 => exact absurd less (by decide)

/-- With the overloads for one and for two exchanged, two still resolves to the one for two. -/
theorem resolve_order_exchanged :
    (ofOverloads [scalarOverload 1 (.integer 2), scalarOverload 0 (.integer 1),
        scalarOverload 2 (.list [.integer 1, .integer 2])]).resolve [.integer 2] =
      some (scalarOverload 1 (.integer 2)).implementation := by
  rw [← (resolve_order.1 _ _ exchanged).1]
  rfl

end DispatchTable

end MultiDispatch
