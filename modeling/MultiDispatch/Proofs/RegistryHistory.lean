import MultiDispatch.Proofs.FlatLog

set_option autoImplicit false
set_option relaxedAutoImplicit false

/-!
# Registries hold their history

A registry keeps a table for each name and a table keeps a group for each arity, both in the
order in which they came into being.  Names and arities interleave in a history in any way, and
still the registry shows exactly the log of its registrations: names in order of first
appearance, and under each name the table that its own registrations would make alone.

## Main definitions

* `MultiDispatch.Registry.Represents` — a registry shows a log.

## Main results

* `MultiDispatch.Registry.Represents.addEntry` — a registration keeps a registry in step with its
  log.
* `MultiDispatch.Registry.represents_ofEntries` — so every log does.
* `MultiDispatch.histories_represented` — tables and registries show their histories.
-/

namespace MultiDispatch

variable {ρ : Role → Type}

namespace Registry

/-- How a registry shows the entries that were registered, one after the other. -/
structure Represents (registry : Registry ρ) (log : List (Entry ρ)) : Prop where
  /-- The names are those of the log in order of first appearance. -/
  names_eq : registry.names = (log.map (·.name)).eraseDups
  /-- The table of a name is the one that the registrations under it make alone; without any
  there is no table. -/
  get?_eq : ∀ name, registry.get? name =
    if overloadsNamed log name = [] then none
    else some (DispatchTable.ofOverloads (overloadsNamed log name))
  /-- No table is empty. -/
  table_not_empty : ∀ table ∈ registry.tables.values, table.isEmpty = false

/-- The empty registry shows the empty log. -/
lemma represents_empty : (empty : Registry ρ).Represents [] where
  names_eq := rfl
  get?_eq _ := rfl
  table_not_empty _ listed := absurd listed List.not_mem_nil

namespace Represents

variable {registry : Registry ρ} {log : List (Entry ρ)}

/-- A registration keeps a registry in step with its log. -/
theorem addEntry (h : registry.Represents log) (entry : Entry ρ) :
    (registry.addEntry entry).Represents (log ++ [entry]) where
  names_eq := by
    rw [List.map_append, List.map_singleton]
    exact InsertionMap.keys_alter_eq_eraseDups h.names_eq _ _
  get?_eq := get?_addEntry h.get?_eq entry
  table_not_empty table listed := by
    rcases InsertionMap.mem_values_alter listed with before | rfl
    · exact h.table_not_empty table before
    · exact DispatchTable.isEmpty_addOverload _ _

/-- A name is registered exactly if the log has an entry with it. -/
lemma contains_iff (h : registry.Represents log) {name : String} :
    registry.contains name = true ↔ ∃ entry ∈ log, entry.name = name := by
  rw [contains, InsertionMap.contains_iff, ← names, h.names_eq, List.mem_eraseDups, List.mem_map]

end Represents

/-- The registry that a log makes shows this log. -/
theorem represents_ofEntries (log : List (Entry ρ)) : (ofEntries log).Represents log := by
  induction log using List.reverseRecOn with
  | nil => exact represents_empty
  | append_singleton log entry ih =>
    rw [ofEntries_append_singleton]
    exact ih.addEntry entry

end Registry

/-- The registry of a history shows its log. -/
theorem Registration.represents_registryAfter (history : List (Registration ρ)) (start : Serial) :
    (registryAfter history start).Represents (logAfter history start) := by
  rw [registryAfter_eq]
  exact Registry.represents_ofEntries _

/-- **Tables and registries show their histories.**  After any history of registrations a table
lists the arities in order of first appearance; for each of them it has the overloads registered
with it, in order, and for no other arity any; no group is empty; and it has one overload for
each registration.  After any history of registrations a registry lists the names in order of
first appearance; it has a table for a name exactly if the name was registered, and that is the
table which the registrations under the name make alone; and no table is empty. -/
theorem histories_represented :
    (∀ (history : List (DispatchTable.Addition ρ)) (start : Serial),
      let table := DispatchTable.Addition.tableAfter history start
      let log := DispatchTable.Addition.logAfter history start
      table.Represents log ∧
      (∀ arity, arity ∉ table.arities → table.overloads arity = []) ∧
      table.size = history.length ∧
      (table.isEmpty = true ↔ history = [])) ∧
    (∀ (history : List (Registration ρ)) (start : Serial),
      let registry := Registration.registryAfter history start
      let log := Registration.logAfter history start
      registry.Represents log ∧
      registry.size = (log.map (·.name)).eraseDups.length ∧
      (∀ name, registry.contains name = true ↔ ∃ entry ∈ log, entry.name = name) ∧
      (∀ name, (registry.get? name).isSome = true ↔ ∃ entry ∈ log, entry.name = name)) := by
  constructor
  · intro history start table log
    have shows : table.Represents log :=
      DispatchTable.Addition.represents_tableAfter history start
    have as_many : log.length = history.length :=
      DispatchTable.Addition.length_logAfter history start
    refine ⟨shows, fun _ => shows.overloads_eq_nil, shows.size_eq.trans as_many, ?_⟩
    rw [shows.isEmpty_iff, ← List.length_eq_zero_iff, as_many, List.length_eq_zero_iff]
  · intro history start registry log
    have shows : registry.Represents log := Registration.represents_registryAfter history start
    refine ⟨shows, ?_, fun _ => shows.contains_iff, fun _ => shows.contains_iff⟩
    rw [← shows.names_eq]
    exact (InsertionMap.length_keys registry.tables).symm

end MultiDispatch
