import MultiDispatch.Proofs.TableHistory
import MultiDispatch.Registry

set_option autoImplicit false
set_option relaxedAutoImplicit false

/-!
# The first match of a history

Dispatch tables keep overloads in groups by arity, registries keep tables by name.  Neither
grouping shows: a signature only accepts as many arguments as it has slots, so the first overload
of a group that accepts them is the first of the whole history that does, and the table of a name
is the table of the registrations under that name.

## Main definitions

* `MultiDispatch.Registry.overloadsNamed` — the registrations of a log under one name.

## Main results

* `MultiDispatch.DispatchTable.resolve_addOverload` — an addition only gives a result to arguments
  that had none.
* `MultiDispatch.DispatchTable.resolve_ofOverloads` — resolution takes the first overload of the
  history that accepts the arguments.
* `MultiDispatch.Registry.get?_ofEntries` — the table of a name is that of its registrations.
-/

namespace MultiDispatch

variable {ρ : Role → Type}

namespace DispatchTable

variable [∀ role, DecidableEq (ρ role)]

/-- After one more addition arguments resolve as before; those that did not resolve get the new
implementation if its signature accepts them.

**Proof sketch.** The new overload comes last in the group of its arity.  If the arguments are of
another number their group stays as it is, and the new signature does not accept them. -/
theorem resolve_addOverload (table : DispatchTable ρ) (overload : Overload ρ)
    (arguments : List (Param ρ)) :
    (table.addOverload overload).resolve arguments = (table.resolve arguments).or
      (if overload.signature.accepts arguments then some overload.implementation else none) := by
  have step := table.overloads_add overload.signature overload.implementation arguments.length
  rw [resolve, resolve, ← add, step]
  by_cases here : overload.signature.length = arguments.length
  · rw [if_pos here, List.find?_append, Option.map_or, List.find?_singleton]
    by_cases accepts : overload.signature.accepts arguments = true <;> simp [accepts]
  · have rejects : ¬ overload.signature.accepts arguments = true :=
      fun accepts => here (Signature.length_of_accepts accepts).symm
    rw [if_neg here, if_neg rejects, Option.or_none]

/-- After further additions arguments resolve as before; those that did not resolve get the first
new implementation whose signature accepts them. -/
theorem resolve_foldl_addOverload (table : DispatchTable ρ) (later : List (Overload ρ))
    (arguments : List (Param ρ)) :
    (later.foldl addOverload table).resolve arguments = (table.resolve arguments).or
      ((later.find? (·.signature.accepts arguments)).map (·.implementation)) := by
  induction later generalizing table with
  | nil => rw [List.foldl_nil, List.find?_nil, Option.map_none, Option.or_none]
  | cons overload later ih =>
    rw [List.foldl_cons, ih, resolve_addOverload, Option.or_assoc, List.find?_cons]
    cases overload.signature.accepts arguments <;> simp

/-- Resolution takes the first overload of the history that accepts the arguments, whatever the
arities of the others. -/
theorem resolve_ofOverloads (history : List (Overload ρ)) (arguments : List (Param ρ)) :
    (ofOverloads history).resolve arguments =
      (history.find? (·.signature.accepts arguments)).map (·.implementation) := by
  have empty_resolve : (empty : DispatchTable ρ).resolve arguments = none := rfl
  rw [ofOverloads, resolve_foldl_addOverload, empty_resolve, Option.none_or]

end DispatchTable

namespace Registry

/-- The registrations of a log under a name, as overloads. -/
def overloadsNamed (log : List (Entry ρ)) (name : String) : List (Overload ρ) :=
  (log.filter (·.name = name)).map fun entry => ⟨entry.signature, entry.implementation⟩

/-- A registration comes last under its name and does not show under any other. -/
lemma overloadsNamed_append_singleton (log : List (Entry ρ)) (entry : Entry ρ) (name : String) :
    overloadsNamed (log ++ [entry]) name =
      if entry.name = name then
        overloadsNamed log name ++ [⟨entry.signature, entry.implementation⟩]
      else overloadsNamed log name := by
  by_cases here : entry.name = name <;> simp [overloadsNamed, here]

/-- One more entry is one more registration. -/
lemma ofEntries_append_singleton (log : List (Entry ρ)) (entry : Entry ρ) :
    ofEntries (log ++ [entry]) = (ofEntries log).addEntry entry := by
  rw [ofEntries, ofEntries, List.foldl_append, List.foldl_cons, List.foldl_nil]

/-- If the tables of a registry hold the registrations of a log by name, they still do after one
more registration.

**Proof sketch.** A registration adds to the table of its name, which comes into being with the
first, and leaves every other table as it is. -/
lemma get?_addEntry {registry : Registry ρ} {log : List (Entry ρ)}
    (h : ∀ name, registry.get? name =
      if overloadsNamed log name = [] then none
      else some (DispatchTable.ofOverloads (overloadsNamed log name)))
    (entry : Entry ρ) (name : String) :
    (registry.addEntry entry).get? name =
      if overloadsNamed (log ++ [entry]) name = [] then none
      else some (DispatchTable.ofOverloads (overloadsNamed (log ++ [entry]) name)) := by
  rw [addEntry, get?_add, overloadsNamed_append_singleton]
  by_cases here : entry.name = name
  · subst here
    have last : (overloadsNamed log entry.name ++
        [(⟨entry.signature, entry.implementation⟩ : Overload ρ)]) ≠ [] := by simp
    have before : (registry.get? entry.name).getD .empty =
        DispatchTable.ofOverloads (overloadsNamed log entry.name) := by
      rw [h]
      split
      · next none => rw [none]; rfl
      · rfl
    rw [if_pos rfl, if_pos rfl, if_neg last, before, DispatchTable.add,
      DispatchTable.ofOverloads_append_singleton]
  · rw [if_neg here, if_neg here, h]

/-- The table of a name holds the registrations under that name; without any there is no table. -/
theorem get?_ofEntries (log : List (Entry ρ)) (name : String) :
    (ofEntries log).get? name =
      if overloadsNamed log name = [] then none
      else some (DispatchTable.ofOverloads (overloadsNamed log name)) := by
  induction log using List.reverseRecOn generalizing name with
  | nil => rfl
  | append_singleton log entry ih =>
    rw [ofEntries_append_singleton]
    exact get?_addEntry ih entry name

end Registry

end MultiDispatch
