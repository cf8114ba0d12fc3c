import Mathlib.Data.List.Induction
import MultiDispatch.DispatchTable
import MultiDispatch.Proofs.InsertionOrder

set_option autoImplicit false
set_option relaxedAutoImplicit false

/-!
# Tables hold their history

A table comes about by registrations, one after the other, and puts each overload at the end of
the group of its arity.  What it holds can be told from the log of the overloads: nothing is
lost, doubled, moved to another group or put in another order, also when a group is added to
again after others.

## Main definitions

* `MultiDispatch.DispatchTable.Represents` — a table shows a log.
* `MultiDispatch.DispatchTable.Addition` — the ways to register with a table, with the table and
  the log they make.

## Main results

* `MultiDispatch.DispatchTable.Represents.addOverload` — a registration with a table keeps it in
  step with its log.
* `MultiDispatch.DispatchTable.represents_ofOverloads` — so every history does.
* `MultiDispatch.DispatchTable.Addition.represents_tableAfter` — the same for registrations that
  make implementations of their own.
-/

namespace MultiDispatch.DispatchTable

variable {ρ : Role → Type}

/-! ## The table of a log -/

/-- How a table shows the overloads that were registered, one after the other. -/
structure Represents (table : DispatchTable ρ) (log : List (Overload ρ)) : Prop where
  /-- The arities are those of the log in order of first appearance. -/
  arities_eq : table.arities = (log.map (·.signature.length)).eraseDups
  /-- The overloads for an arity are the part of the log that has it, in order. -/
  overloads_eq : ∀ arity, table.overloads arity = log.filter (·.signature.length = arity)
  /-- No group is empty. -/
  group_ne_nil : ∀ group ∈ table.groups.values, group ≠ []
  /-- There are as many overloads as in the log. -/
  size_eq : table.size = log.length

/-- The empty table shows the empty log. -/
lemma represents_empty : (empty : DispatchTable ρ).Represents [] where
  arities_eq := rfl
  overloads_eq _ := rfl
  group_ne_nil _ listed := absurd listed List.not_mem_nil
  size_eq := rfl

namespace Represents

variable {table : DispatchTable ρ} {log : List (Overload ρ)}

/-- A registration keeps a table in step with its log.

**Proof sketch.** The group of the overload grows by one at its end, and if there was none it
comes into being behind the others; every other group stays as it is. -/
theorem addOverload (h : table.Represents log) (overload : Overload ρ) :
    (table.addOverload overload).Represents (log ++ [overload]) where
  arities_eq := by
    rw [List.map_append, List.map_singleton]
    exact InsertionMap.keys_alter_eq_eraseDups h.arities_eq _ _
  overloads_eq arity := by
    have step := table.overloads_add overload.signature overload.implementation arity
    rw [← add, step, h.overloads_eq, List.filter_append]
    by_cases here : overload.signature.length = arity <;> simp [here]
  group_ne_nil group listed := by
    rcases InsertionMap.mem_values_alter listed with before | rfl
    · exact h.group_ne_nil group before
    · exact List.append_ne_nil_of_right_ne_nil _ (List.cons_ne_nil _ _)
  size_eq := by
    have grows : (table.addOverload overload).size = table.size + 1 :=
      table.groups.sum_values_alter overload.signature.length List.length rfl fun group => by simp
    rw [grows, h.size_eq, List.length_append, List.length_singleton]

/-- A table is empty exactly if its log is. -/
lemma isEmpty_iff (h : table.Represents log) : table.isEmpty = true ↔ log = [] := by
  rw [isEmpty, InsertionMap.isEmpty_iff, ← arities, h.arities_eq]
  cases log <;> simp [List.eraseDups_cons]

/-- There is no overload for an arity that is not listed. -/
lemma overloads_eq_nil (h : table.Represents log) {arity : Nat} (other : arity ∉ table.arities) :
    table.overloads arity = [] := by
  rw [h.arities_eq, List.mem_eraseDups] at other
  rw [h.overloads_eq, List.filter_eq_nil_iff]
  intro overload logged here
  exact other (List.mem_map.mpr ⟨overload, logged, of_decide_eq_true here⟩)

end Represents

/-- After a registration a table is not empty. -/
lemma isEmpty_addOverload (table : DispatchTable ρ) (overload : Overload ρ) :
    (table.addOverload overload).isEmpty = false := by
  rw [← Bool.not_eq_true, isEmpty, InsertionMap.isEmpty_iff, addOverload, InsertionMap.keys_alter]
  split
  · next known => exact List.ne_nil_of_mem known
  · exact List.append_ne_nil_of_right_ne_nil _ (List.cons_ne_nil _ _)

/-- One more overload of a history is one more addition. -/
lemma ofOverloads_append_singleton (history : List (Overload ρ)) (overload : Overload ρ) :
    ofOverloads (history ++ [overload]) = (ofOverloads history).addOverload overload := by
  rw [ofOverloads, ofOverloads, List.foldl_append, List.foldl_cons, List.foldl_nil]

/-- The table that a sequence of overloads makes shows this sequence. -/
theorem represents_ofOverloads (history : List (Overload ρ)) :
    (ofOverloads history).Represents history := by
  induction history using List.reverseRecOn with
  | nil => exact represents_empty
  | append_singleton history overload ih =>
    rw [ofOverloads_append_singleton]
    exact ih.addOverload overload

/-! ## Histories of registrations -/

/-- One act of registration with a table. -/
inductive Addition (ρ : Role → Type) where
  /-- Adds an implementation that exists already. -/
  | add (overload : Overload ρ)
  /-- Adds a new implementation with these rules. -/
  | addNew (signature : Signature ρ) (resultType : ResultType ρ)
    (compute : List (Tagged ρ) → Except TypeFault Payload)

namespace Addition

/-- The table after an act of registration. -/
def apply (table : DispatchTable ρ) : Addition ρ → Fresh (DispatchTable ρ)
  | add overload => return table.add overload.signature overload.implementation
  | addNew signature resultType compute => table.addNew signature resultType compute

/-- The overload that an act of registration adds.  A new implementation is its two rules under the
next serial number. -/
def overload : Addition ρ → Fresh (Overload ρ)
  | add overload => return overload
  | addNew signature resultType compute =>
    modifyGet fun next => (⟨signature, ⟨next, resultType, compute⟩⟩, next + 1)

/-- The table that a history makes of the empty one, when `start` is the next serial number. -/
def tableAfter (history : List (Addition ρ)) (start : Serial) : DispatchTable ρ :=
  ((history.foldlM apply .empty).run start).1

/-- The overloads of a history in order, when `start` is the next serial number. -/
def logAfter (history : List (Addition ρ)) (start : Serial) : List (Overload ρ) :=
  ((history.mapM overload).run start).1

/-- An act of registration adds its overload to the table. -/
lemma apply_eq (table : DispatchTable ρ) (addition : Addition ρ) :
    addition.apply table = table.addOverload <$> addition.overload := by
  cases addition with
  | add overload => rw [apply, Addition.overload, map_pure, DispatchTable.add]
  | addNew signature resultType compute =>
    rfl

/-- A history adds its overloads to the table, one after the other. -/
lemma foldlM_apply (history : List (Addition ρ)) (table : DispatchTable ρ) :
    history.foldlM apply table =
      (fun log => log.foldl addOverload table) <$> history.mapM overload := by
  induction history generalizing table with
  | nil => rw [List.foldlM_nil, List.mapM_nil, map_pure, List.foldl_nil]
  | cons addition history ih =>
    simp only [List.foldlM_cons, List.mapM_cons, apply_eq, bind_map_left, map_bind, ih,
      List.foldl_cons, bind_pure_comp, Functor.map_map]

/-- The table of a history is that of its log. -/
theorem tableAfter_eq (history : List (Addition ρ)) (start : Serial) :
    tableAfter history start = ofOverloads (logAfter history start) := by
  rw [tableAfter, foldlM_apply]
  rfl

/-- The table of a history shows its log. -/
theorem represents_tableAfter (history : List (Addition ρ)) (start : Serial) :
    (tableAfter history start).Represents (logAfter history start) := by
  rw [tableAfter_eq]
  exact represents_ofOverloads _

/-- The log of a history has one overload for each act. -/
lemma length_logAfter (history : List (Addition ρ)) (start : Serial) :
    (logAfter history start).length = history.length := by
  induction history generalizing start with
  | nil => rfl
  | cons addition history ih =>
    have rest := ih ((addition.overload.run start).2)
    simp only [logAfter, List.mapM_cons] at rest ⊢
    exact congrArg Nat.succ rest

end Addition

end MultiDispatch.DispatchTable
