import MultiDispatch.Registry.Router
import MultiDispatch.Proofs.InsertionOrder

set_option autoImplicit false
set_option relaxedAutoImplicit false

/-!
# Routers hand out registered tables

A router is made in two loops.  The first one walks along the pairs of a routing, looks up every
name and writes the operator over whatever its token stood for before.  The second one walks
along the routes that are left and keeps the first operator of each name.  A name that is
overwritten later is still looked up, so it may make the router fail; but it leaves no trace in a
router that is made.

## Main definitions

* `MultiDispatch.lastName?` — the name in the last pair with a token.
* `MultiDispatch.Routing.names` — the names that are looked up.
* `MultiDispatch.Routing.nameOf?` — the name that a token stands for in the end.
* `MultiDispatch.Registry.Routes` — routes that follow pairs of tokens and names.
* `MultiDispatch.Registry.Serves` — a router that serves a routing.

## Main results

* `MultiDispatch.Registry.addRoutes_eq_error_iff` — the first loop fails with the first name that
  is not registered.
* `MultiDispatch.Registry.Routes.insert`, `MultiDispatch.Registry.Routes.addRoutes` — one step of
  the first loop and the whole loop keep the routes in step with the pairs.
* `MultiDispatch.Router.mem_distinct_iff`, `MultiDispatch.Router.nodup_names_distinct` — what the
  second loop keeps.
* `MultiDispatch.Registry.serves_of_router_eq_ok` — so a router that is made serves its routing.
* `MultiDispatch.Registry.router_follows_routing` — routers do what their routing says.
-/

namespace MultiDispatch

variable {ρ : Role → Type}

/-! ## Results -/

/-- A function of a result gives what it makes of a value. -/
lemma map_eq_ok_iff {ε α β : Type} {f : α → β} {result : Except ε α} {made : β} :
    result.map f = .ok made ↔ ∃ value, result = .ok value ∧ f value = made := by
  cases result <;> simp [Except.map]

/-- A function of a result leaves its errors. -/
lemma map_eq_error_iff {ε α β : Type} {f : α → β} {result : Except ε α} {fault : ε} :
    result.map f = .error fault ↔ result = .error fault := by
  cases result <;> simp [Except.map]

/-! ## What a routing says -/

/-- The name in the last pair with a token. -/
def lastName? (pairs : List (String × String)) (token : String) : Option String :=
  (pairs.filter (·.1 = token)).getLast?.map (·.2)

/-- One more pair gives its token its name and leaves the other tokens alone. -/
lemma lastName?_append_singleton (pairs : List (String × String)) (token name other : String) :
    lastName? (pairs ++ [(token, name)]) other =
      if token = other then some name else lastName? pairs other := by
  rw [lastName?, List.filter_append]
  by_cases here : token = other <;> simp [here, lastName?]

namespace Routing

/-- The names of a routing in the order in which they are looked up. -/
def names : Routing → List String
  | all name => [name]
  | each pairs => pairs.map (·.2)

/-- The name that a token stands for, if any. -/
def nameOf? : Routing → String → Option String
  | all name, _ => some name
  | each pairs, token => lastName? pairs token

end Routing

namespace Registry

variable {registry : Registry ρ}

/-! ## The operators of names -/

/-- The operator of a name has this name and the table registered under it. -/
lemma operator_eq_ok_iff {name : String} {operator : Operator ρ} :
    registry.operator name = .ok operator ↔
      operator.name = name ∧ registry.get? name = some operator.table := by
  obtain ⟨own, table⟩ := operator
  rw [Registry.operator, map_eq_ok_iff, getStrict]
  cases registry.get? name <;> simp [eq_comm, and_comm]

/-- Looking up an operator fails exactly for names that are not registered. -/
lemma operator_eq_error_iff {name : String} {fault : LookupFault} :
    registry.operator name = .error fault ↔
      registry.contains name = false ∧ fault = .unknownOperator name := by
  rw [Registry.operator, map_eq_error_iff, getStrict, contains, InsertionMap.contains, ← get?]
  cases registry.get? name <;> simp [eq_comm]

/-! ## Adding routes -/

/-- Adding routes fails exactly if some name is not registered, and then with the first one. -/
theorem addRoutes_eq_error_iff {pairs : List (String × String)}
    {routes : InsertionMap String (Operator ρ)} {fault : LookupFault} :
    registry.addRoutes routes pairs = .error fault ↔
      ∃ name, (pairs.map (·.2)).find? (fun name => !registry.contains name) = some name ∧
        fault = .unknownOperator name := by
  induction pairs generalizing routes with
  | nil => simp [addRoutes]
  | cons pair rest ih =>
    obtain ⟨token, name⟩ := pair
    rw [addRoutes]
    -- a registered name leaves the search for the first unknown one to the rest
    split
    · next operator found =>
      obtain ⟨-, known⟩ := operator_eq_ok_iff.mp found
      have registered : registry.contains name = true := Option.isSome_iff_exists.mpr ⟨_, known⟩
      rw [ih, List.map_cons, List.find?_cons_of_neg (by simp [registered])]
    · next first failed =>
      obtain ⟨unknown, rfl⟩ := operator_eq_error_iff.mp failed
      rw [List.map_cons, List.find?_cons_of_pos (by simp [unknown])]
      simp [eq_comm]

/-- How routes follow pairs of tokens and names. -/
structure Routes (registry : Registry ρ) (pairs : List (String × String))
    (routes : InsertionMap String (Operator ρ)) : Prop where
  /-- No token is listed twice. -/
  nodup_keys : routes.keys.Nodup
  /-- Each token leads to an operator of the name that it was given last. -/
  name_eq : ∀ token, (routes.get? token).map (·.name) = lastName? pairs token
  /-- The operators are those of the registry. -/
  registered : ∀ token operator, routes.get? token = some operator →
    registry.get? operator.name = some operator.table

/-- No routes follow no pairs. -/
lemma routes_empty : registry.Routes [] .empty where
  nodup_keys := List.nodup_nil
  name_eq _ := rfl
  registered _ _ found := nomatch found

namespace Routes

variable {pairs : List (String × String)} {routes : InsertionMap String (Operator ρ)}

/-- A route to the operator of a name keeps the routes in step with the pairs. -/
theorem insert (h : registry.Routes pairs routes) {token name : String} {operator : Operator ρ}
    (found : registry.operator name = .ok operator) :
    registry.Routes (pairs ++ [(token, name)]) (routes.insert token operator) := by
  obtain ⟨named, known⟩ := operator_eq_ok_iff.mp found
  have get?_insert : ∀ other, (routes.insert token operator).get? other =
      if token = other then some operator else routes.get? other :=
    fun other => routes.get?_alter token other _
  refine ⟨InsertionMap.nodup_keys_alter h.nodup_keys _ _, fun other => ?_,
    fun other led there => ?_⟩
  · rw [get?_insert, lastName?_append_singleton]
    split
    · exact congrArg some named
    · exact h.name_eq other
  · rw [get?_insert] at there
    split at there
    · obtain rfl : operator = led := Option.some.inj there
      exact named ▸ known
    · exact h.registered other led there

/-- Routes that are added keep in step with the pairs. -/
theorem addRoutes (h : registry.Routes pairs routes) {more : List (String × String)}
    {after : InsertionMap String (Operator ρ)} (done : registry.addRoutes routes more = .ok after) :
    registry.Routes (pairs ++ more) after := by
  induction more generalizing pairs routes with
  | nil =>
    obtain rfl : routes = after := Except.ok.inj done
    rwa [List.append_nil]
  | cons pair rest ih =>
    obtain ⟨token, name⟩ := pair
    rw [Registry.addRoutes] at done
    split at done
    · next operator found =>
      rw [List.append_cons]
      exact ih (h.insert found) done
    · cases done

/-- Operators of one name that are led to are the same.

**Proof sketch.** Each of them has the table that the registry has for its name. -/
lemma eq_of_name_eq (h : registry.Routes pairs routes) :
    ∀ one ∈ routes.values, ∀ other ∈ routes.values, one.name = other.name → one = other := by
  intro one first other second same
  obtain ⟨token, leads⟩ := (InsertionMap.mem_values_iff h.nodup_keys).mp first
  obtain ⟨token', leads'⟩ := (InsertionMap.mem_values_iff h.nodup_keys).mp second
  have tables : some one.table = some other.table := by
    rw [← h.registered token one leads, ← h.registered token' other leads', same]
  obtain ⟨name, table⟩ := one
  obtain ⟨name', table'⟩ := other
  obtain rfl : name = name' := same
  obtain rfl : table = table' := Option.some.inj tables
  rfl

end Routes

end Registry

namespace Router

/-! ## Operators once -/

/-- Operators whose name came before are left out. -/
lemma name_not_mem_of_mem_distinct {known : List String} {operators : List (Operator ρ)}
    {operator : Operator ρ} (h : operator ∈ distinct known operators) : operator.name ∉ known := by
  induction operators generalizing known with
  | nil => cases h
  | cons first rest ih =>
    rw [distinct] at h
    split at h
    · exact ih h
    · next new =>
      rcases List.mem_cons.mp h with rfl | later
      · exact new
      · exact fun before => ih later (List.mem_cons_of_mem _ before)

/-- No name is kept twice. -/
theorem nodup_names_distinct (known : List String) (operators : List (Operator ρ)) :
    ((distinct known operators).map (·.name)).Nodup := by
  induction operators generalizing known with
  | nil => exact List.nodup_nil
  | cons first rest ih =>
    rw [distinct]
    split
    · exact ih known
    · rw [List.map_cons, List.nodup_cons]
      refine ⟨fun again => ?_, ih _⟩
      obtain ⟨operator, kept, same⟩ := List.mem_map.mp again
      exact name_not_mem_of_mem_distinct kept (same ▸ List.mem_cons_self)

/-- If a name tells an operator of a list, all those operators are kept whose name is new. -/
theorem mem_distinct_iff {known : List String} {operators : List (Operator ρ)}
    (told : ∀ one ∈ operators, ∀ other ∈ operators, one.name = other.name → one = other)
    {operator : Operator ρ} :
    operator ∈ distinct known operators ↔ operator ∈ operators ∧ operator.name ∉ known := by
  induction operators generalizing known with
  | nil => simp [distinct]
  | cons first rest ih =>
    have told_rest : ∀ one ∈ rest, ∀ other ∈ rest, one.name = other.name → one = other :=
      fun one listed other there =>
        told one (List.mem_cons_of_mem _ listed) other (List.mem_cons_of_mem _ there)
    rw [distinct, List.mem_cons]
    split
    · next old =>
      rw [ih told_rest]
      refine ⟨fun ⟨listed, new⟩ => ⟨Or.inr listed, new⟩, fun ⟨listed, new⟩ => ⟨?_, new⟩⟩
      exact listed.resolve_left fun same => new (same ▸ old)
    · next new =>
      rw [List.mem_cons, ih told_rest, List.mem_cons]
      constructor
      · rintro (rfl | ⟨listed, other⟩)
        · exact ⟨Or.inl rfl, new⟩
        · exact ⟨Or.inr listed, fun before => other (Or.inr before)⟩
      · rintro ⟨rfl | listed, unknown⟩
        · exact Or.inl rfl
        · -- a later operator of the name that is kept here is the one that is kept
          by_cases same : operator.name = first.name
          · exact Or.inl (told _ (List.mem_cons_of_mem _ listed) _ List.mem_cons_self same)
          · exact Or.inr ⟨listed, fun before => before.elim same unknown⟩

/-- A token counts by its bracket only. -/
lemma resolve_eq_resolve_bracket {τ : Type} [GroupingToken τ] (router : Router ρ) (token : τ) :
    router.resolve token = router.resolve (GroupingToken.bracket token) := by
  cases router <;> rfl

end Router

namespace Registry

/-! ## Routers -/

variable {registry : Registry ρ} {routing : Routing} {router : Router ρ}

/-- There is no router exactly if some name is not registered, and the first such name is
reported. -/
theorem router_eq_error_iff {fault : LookupFault} :
    registry.router routing = .error fault ↔
      ∃ name, routing.names.find? (fun name => !registry.contains name) = some name ∧
        fault = .unknownOperator name := by
  cases routing with
  | all name =>
    rw [Registry.router, map_eq_error_iff, operator_eq_error_iff, Routing.names]
    cases registered : registry.contains name <;> simp [registered, eq_comm]
  | each pairs => rw [Registry.router, map_eq_error_iff, addRoutes_eq_error_iff, Routing.names]

/-- There is a router exactly if every name is registered.

**Proof sketch.** There is a router or a fault, and a fault is the first name in a search for one
that is not registered. -/
theorem exists_router_iff :
    (∃ router, registry.router routing = .ok router) ↔
      ∀ name ∈ routing.names, registry.contains name = true := by
  have all_registered : (∀ name ∈ routing.names, registry.contains name = true) ↔
      routing.names.find? (fun name => !registry.contains name) = none := by
    simp only [List.find?_eq_none, Bool.not_eq_true', Bool.not_eq_false]
  rw [all_registered]
  cases made : registry.router routing with
  | ok router =>
    refine iff_of_true ⟨router, rfl⟩ (Option.eq_none_iff_forall_ne_some.mpr fun name found => ?_)
    cases made.symm.trans (router_eq_error_iff.mpr ⟨name, found, rfl⟩)
  | error fault =>
    obtain ⟨name, found, -⟩ := router_eq_error_iff.mp made
    refine iff_of_false (fun ⟨router, h⟩ => nomatch h) fun none_found => ?_
    cases none_found.symm.trans found

/-- How a router serves a routing. -/
structure Serves (registry : Registry ρ) (routing : Routing) (router : Router ρ) : Prop where
  /-- Each token leads to an operator of the name that it stands for. -/
  name_eq : ∀ token : String, (router.resolve token).map (·.name) = routing.nameOf? token
  /-- The operators are those of the registry. -/
  registered : ∀ (token : String) (operator : Operator ρ), router.resolve token = some operator →
    registry.get? operator.name = some operator.table
  /-- The kit has the operators that some token leads to. -/
  mem_kit_iff : ∀ operator, operator ∈ router.kit ↔
    ∃ token : String, router.resolve token = some operator
  /-- The kit has each of them once. -/
  nodup_kit : (router.kit.map (·.name)).Nodup

/-- A router of one operator serves a routing to its name. -/
lemma serves_all {name : String} {operator : Operator ρ}
    (found : registry.operator name = .ok operator) :
    registry.Serves (.all name) (.all operator) where
  name_eq _ := congrArg some (operator_eq_ok_iff.mp found).1
  registered _ led leads := by
    obtain rfl : operator = led := Option.some.inj leads
    obtain ⟨rfl, known⟩ := operator_eq_ok_iff.mp found
    exact known
  mem_kit_iff led := by simp [Router.kit, Router.resolve, eq_comm]
  nodup_kit := List.pairwise_singleton _ _

/-- A router of routes serves the pairs that they follow. -/
lemma Routes.serves_each {pairs : List (String × String)}
    {routes : InsertionMap String (Operator ρ)} (h : registry.Routes pairs routes) :
    registry.Serves (.each pairs) (.each routes) where
  name_eq := h.name_eq
  registered := h.registered
  mem_kit_iff operator := by
    rw [Router.kit, Router.mem_distinct_iff h.eq_of_name_eq,
      InsertionMap.mem_values_iff h.nodup_keys]
    exact and_iff_left List.not_mem_nil
  nodup_kit := Router.nodup_names_distinct [] _

/-- A router that is made serves its routing.

**Proof sketch.** The loop over the pairs starts with routes that follow no pairs and every step
keeps them in step, so the routes in the end follow all pairs. -/
theorem serves_of_router_eq_ok (made : registry.router routing = .ok router) :
    registry.Serves routing router := by
  cases routing with
  | all name =>
    obtain ⟨operator, found, rfl⟩ := map_eq_ok_iff.mp made
    exact serves_all found
  | each pairs =>
    obtain ⟨routes, done, rfl⟩ := map_eq_ok_iff.mp made
    exact (routes_empty.addRoutes done).serves_each

namespace Serves

variable (h : registry.Serves routing router)
include h

/-- A token that stands for a name leads to the table of this name. -/
lemma resolve_of_name {token name : String} (named : routing.nameOf? token = some name) :
    ∃ table, registry.get? name = some table ∧ router.resolve token = some ⟨name, table⟩ := by
  rw [← h.name_eq] at named
  obtain ⟨⟨_, table⟩, leads, rfl⟩ := Option.map_eq_some_iff.mp named
  exact ⟨table, h.registered token _ leads, leads⟩

/-- The kit has the names that some token stands for. -/
lemma mem_names_kit_iff {name : String} :
    name ∈ router.kit.map (·.name) ↔ ∃ token, routing.nameOf? token = some name := by
  simp only [List.mem_map, h.mem_kit_iff, ← h.name_eq, Option.map_eq_some_iff]
  exact ⟨fun ⟨operator, ⟨token, leads⟩, named⟩ => ⟨token, operator, leads, named⟩,
    fun ⟨token, operator, leads, named⟩ => ⟨operator, ⟨token, leads⟩, named⟩⟩

end Serves

/-- **Routers follow their routing.**  A router of a routing can be made exactly if every name of
the routing is registered, also a name that a later pair overwrites; otherwise the first name
that is not registered is reported.  In a router that is made, a token that stands for a name
leads to the table of this name in the registry and any other token leads nowhere; and the kit
has each operator that some token leads to, by name, exactly once and no other, so that names
with equal tables stay apart and names that were overwritten everywhere are left out. -/
theorem router_follows_routing (registry : Registry ρ) (routing : Routing) :
    (∀ fault, registry.router routing = .error fault ↔
      ∃ name, routing.names.find? (fun name => !registry.contains name) = some name ∧
        fault = .unknownOperator name) ∧
    ((∃ router, registry.router routing = .ok router) ↔
      ∀ name ∈ routing.names, registry.contains name = true) ∧
    (∀ router, registry.router routing = .ok router →
      (∀ (τ : Type) [GroupingToken τ] (token : τ),
        (∀ name, routing.nameOf? (GroupingToken.bracket token) = some name →
          ∃ table, registry.get? name = some table ∧
            router.resolve token = some ⟨name, table⟩) ∧
        (routing.nameOf? (GroupingToken.bracket token) = none →
          router.resolve token = none)) ∧
      (∀ operator, operator ∈ router.kit ↔
        ∃ token : String, router.resolve token = some operator) ∧
      (router.kit.map (·.name)).Nodup ∧
      (∀ name, name ∈ router.kit.map (·.name) ↔
        ∃ token, routing.nameOf? token = some name)) := by
  refine ⟨fun _ => router_eq_error_iff, exists_router_iff, fun router made => ?_⟩
  have serves : registry.Serves routing router := serves_of_router_eq_ok made
  refine ⟨fun τ _ token => ?_, serves.mem_kit_iff, serves.nodup_kit,
    fun _ => serves.mem_names_kit_iff⟩
  rw [router.resolve_eq_resolve_bracket token]
  refine ⟨fun name => serves.resolve_of_name, fun unnamed => ?_⟩
  rwa [← serves.name_eq, Option.map_eq_none_iff] at unnamed

end Registry

end MultiDispatch
