import Mathlib.Data.List.Forall2
import MultiDispatch.Proofs.DraftRuns
import MultiDispatch.Proofs.Equality
import MultiDispatch.Registry

set_option autoImplicit false
set_option relaxedAutoImplicit false

/-!
# Texts of equal types

The text of a node is made of what equality of types looks at: its name, its template and its
parameters.  A node is therefore displayed like its bare description, and nodes that describe the
same type, parameters that agree and equal signatures have the same texts.  A report that no
implementation takes the arguments lists the texts of their types, so it cannot tell arguments of
equal types apart.  And no node that is ever built has the empty text.

## Main results

* `MultiDispatch.TypeNode.display_bare`, `MultiDispatch.Param.displayAll_bareAll` — texts depend on
  bare descriptions only.
* `MultiDispatch.DispatchTable.runFrom_call_eq_noMatch_iff` — when a table reports that nothing
  matches, and with which texts.
* `MultiDispatch.TypeNode.display_ne_empty` — a node that says which type is meant has a text.
* `MultiDispatch.display_respects_equality` — texts and reports respect equality of types.
-/

namespace MultiDispatch

variable {ρ : Role → Type}

/-! ## Bare descriptions are displayed alike -/

mutual

/-- A node is displayed like its bare description.

**Proof sketch.** Induction on the node, together with its template, its parameters and their
items.  Which parts are present is the same on both sides, and by the induction hypotheses so are
their texts. -/
theorem TypeNode.display_bare : ∀ node : TypeNode ρ, node.bare.display = node.display
  | ⟨_, name, template, params, _, _⟩ => by
    have origin := TypeNode.displayTemplate_bareTemplate template
    have texts := Param.displayAll_bareAll params
    cases params with
    | nil =>
      cases name <;> cases template <;>
        simp_all [TypeNode.bare, TypeNode.bareTemplate, Param.bareAll, TypeNode.display]
    | cons param rest =>
      simp only [Param.bareAll, Param.displayAll] at texts
      cases name <;> cases template <;>
        simp_all [TypeNode.bare, TypeNode.bareTemplate, Param.bareAll, TypeNode.display]

/-- A template is displayed like its bare description. -/
theorem TypeNode.displayTemplate_bareTemplate : ∀ template : Option (TypeNode ρ),
    TypeNode.displayTemplate (TypeNode.bareTemplate template) = TypeNode.displayTemplate template
  | none => rfl
  | some node => by
    rw [TypeNode.bareTemplate, TypeNode.displayTemplate, TypeNode.displayTemplate,
      TypeNode.display_bare node]

/-- A parameter is displayed like its bare description. -/
theorem Param.display_bare : ∀ param : Param ρ, param.bare.display = param.display
  | .type node => by rw [Param.bare, Param.display, Param.display, TypeNode.display_bare node]
  | .list items => by rw [Param.bare, Param.display, Param.display, Param.displayAll_bareAll items]
  | .integer _ | .string _ | .boolean _ => rfl

/-- Parameters are displayed like their bare descriptions. -/
theorem Param.displayAll_bareAll : ∀ params : List (Param ρ),
    Param.displayAll (Param.bareAll params) = Param.displayAll params
  | [] => rfl
  | param :: rest => by
    rw [Param.bareAll, Param.displayAll, Param.displayAll, Param.display_bare param,
      Param.displayAll_bareAll rest]

end

/-! ## Equal types, parameters and signatures -/

section Equality

variable [∀ role, DecidableEq (ρ role)]

/-- Nodes that describe the same type have the same text. -/
lemma TypeNode.display_congr {a b : TypeNode ρ} (h : a.sameType b = true) :
    a.display = b.display := by
  rw [← display_bare a, sameType_iff_bare.mp h, display_bare]

/-- Parameters that agree have the same texts. -/
lemma Param.map_display_congr {as bs : List (Param ρ)} (h : Param.sameParams as bs = true) :
    as.map Param.display = bs.map Param.display := by
  rw [← displayAll_eq_map, ← displayAll_eq_map, ← displayAll_bareAll as, sameParams_iff_bare.mp h,
    displayAll_bareAll]

/-- Equal signatures have the same text. -/
lemma Signature.display_congr {s t : Signature ρ} (h : (s == t) = true) :
    s.display = t.display := by
  have agree : Param.sameParams s.slots t.slots = true := by
    rwa [← Param.list_beq_eq_sameParams]
  rw [display, display, Param.map_display_congr agree]

/-! ## Reports that nothing matches -/

/-- Arguments of equal types have types with the same texts. -/
lemma map_display_type_congr {arguments arguments' : List (Tagged ρ)}
    (h : List.Forall₂ (fun a b => a.type.sameType b.type = true) arguments arguments') :
    arguments.map (·.type.display) = arguments'.map (·.type.display) := by
  induction h with
  | nil => rfl
  | cons here _ ih => rw [List.map_cons, List.map_cons, TypeNode.display_congr here, ih]

/-- A table reports that nothing matches exactly if it has no implementation for the types of the
arguments, and then with the texts of these types. -/
theorem DispatchTable.runFrom_call_eq_noMatch_iff {table : DispatchTable ρ}
    {arguments : List (Tagged ρ)} {next after : Serial} {texts : List String} :
    (table.call arguments).runFrom next = (.error (.noMatch texts), after) ↔
      table.get (arguments.map (·.type)) = none ∧ arguments.map (·.type.display) = texts ∧
        next = after := by
  cases found : table.get (arguments.map (·.type)) with
  | none => simp [call, found, Function.comp_def]
  | some implementation =>
    -- an implementation that fails is reported as such
    simp only [call, found, Minting.runFrom_mapFault]
    split <;> simp

/-- A registry that reports that nothing matches does so with the texts of the types of the
arguments. -/
lemma Registry.texts_of_noMatch {registry : Registry ρ} {name : String}
    {arguments : List (Tagged ρ)} {next after : Serial} {texts : List String}
    (h : (registry.call name arguments).runFrom next = (.error (.noMatch texts), after)) :
    arguments.map (·.type.display) = texts := by
  unfold call at h
  split at h
  · exact (DispatchTable.runFrom_call_eq_noMatch_iff.mp h).2.1
  · simp at h

end Equality

/-! ## No text is empty -/

/-- A node that says which type is meant has a text that is not empty. -/
theorem TypeNode.display_ne_empty {node : TypeNode ρ}
    (h : Identifies node.name node.template node.params) : node.display ≠ "" := by
  obtain ⟨serial, name, template, params, faces, interface⟩ := node
  intro empty
  rcases h with ⟨text, rfl, not_empty⟩ | ⟨-, specialized⟩
  · -- the name comes first, whatever follows
    cases template <;> cases params <;> simp_all [display, String.append_eq_empty_iff]
  · -- there are angle brackets, whatever comes before
    cases params with
    | nil => exact specialized rfl
    | cons param rest => simp [display, String.append_eq_empty_iff] at empty

/-- **Texts respect equality.**  Nodes that describe the same type have the same text; parameters
that agree have the same texts one by one; and equal signatures have the same text.  So arguments
whose types are equal one by one and for which their tables have no implementation are reported
with the same texts, whatever the tables and the payloads; the same holds of calls by name.  And
every node that a build yields has a text that is not empty. -/
theorem display_respects_equality [∀ role, DecidableEq (ρ role)] :
    (∀ a b : TypeNode ρ, a.sameType b = true → a.display = b.display) ∧
    (∀ as bs : List (Param ρ), Param.sameParams as bs = true →
      List.Forall₂ (fun a b => a.display = b.display) as bs) ∧
    (∀ s t : Signature ρ, (s == t) = true → s.display = t.display) ∧
    (∀ arguments arguments' : List (Tagged ρ),
      List.Forall₂ (fun a b => a.type.sameType b.type = true) arguments arguments' →
      (∀ table table' : DispatchTable ρ, table.get (arguments.map (·.type)) = none →
        table'.get (arguments'.map (·.type)) = none → ∀ next,
          (table.call arguments).runFrom next =
            (.error (.noMatch (arguments.map (·.type.display))), next) ∧
          (table'.call arguments').runFrom next =
            (.error (.noMatch (arguments.map (·.type.display))), next)) ∧
      (∀ (registry registry' : Registry ρ) (name name' : String) (next next' after after' : Serial)
        (texts texts' : List String),
        (registry.call name arguments).runFrom next = (.error (.noMatch texts), after) →
        (registry'.call name' arguments').runFrom next' = (.error (.noMatch texts'), after') →
        texts = texts')) ∧
    (∀ (draft : Draft ρ) (next after : Serial) (node : TypeNode ρ),
      draft.build.runFrom next = (.ok node, after) → node.display ≠ "") := by
  refine ⟨fun a b => TypeNode.display_congr, ?_, fun s t => Signature.display_congr, ?_, ?_⟩
  · intro as bs agree
    have texts := Param.map_display_congr agree
    rw [← List.forall₂_eq_eq_eq, List.forall₂_map_left_iff, List.forall₂_map_right_iff] at texts
    exact texts
  · intro arguments arguments' types
    have texts := map_display_type_congr types
    constructor
    · intro table table' unmatched unmatched' next
      constructor
      · exact DispatchTable.runFrom_call_eq_noMatch_iff.mpr ⟨unmatched, rfl, rfl⟩
      · exact DispatchTable.runFrom_call_eq_noMatch_iff.mpr ⟨unmatched', texts.symm, rfl⟩
    · intro registry registry' name name' next next' after after' reported reported' fails fails'
      calc reported = arguments.map (·.type.display) := (Registry.texts_of_noMatch fails).symm
        _ = arguments'.map (·.type.display) := texts
        _ = reported' := Registry.texts_of_noMatch fails'
  · intro draft next after node built
    exact TypeNode.display_ne_empty (Draft.identifies_and_suffices_of_build built).1

/-! ### A type of grids, built twice -/

/-- The type that grids specialize, built with a serial number. -/
def gridOrigin (serial : Serial) : TypeNode fun _ => Empty :=
  ⟨serial, some "Grid", none, [], [], { isAbstract := true }⟩

/-- The draft of grids whose cells are grids. -/
def gridDraft (serial : Serial) : Draft fun _ => Empty :=
  { Draft.specialization (gridOrigin serial)
      [.list [.type (gridOrigin serial), .string "xy"], .integer (-2)] with
    name := some "", interface := { isAbstract := true } }

/-- The type of grids whose cells are grids, built right after its origin. -/
def gridType (serial : Serial) : TypeNode fun _ => Empty :=
  (gridDraft serial).toNode (serial + 1)

/-- A table that takes a text. -/
def textTable : DispatchTable fun _ => Empty :=
  .ofOverloads [⟨⟨[.string "xy"]⟩, ⟨0, .constant (gridOrigin 0), fun _ => .ok .unit⟩⟩]

/-- The two types of grids are different nodes that describe the same type, with the same text, and
two tables that take neither of them report them alike. -/
theorem display_respects_equality_grids :
    gridType 1 ≠ gridType 3 ∧ (gridType 1).sameType (gridType 3) = true ∧
    (gridDraft 1).build.runFrom 2 = (.ok (gridType 1), 3) ∧
    textTable.get [gridType 1] = none ∧ DispatchTable.empty.get [gridType 3] = none ∧
    (gridType 1).display = (gridType 3).display ∧ (gridType 1).display ≠ "" ∧
    (textTable.call [(gridType 1).tag .unit]).runFrom 5 =
      (.error (.noMatch ["Grid<[Grid, xy], -2>"]), 5) ∧
    (DispatchTable.empty.call [(gridType 3).tag (.boolean true)]).runFrom 5 =
      (.error (.noMatch ["Grid<[Grid, xy], -2>"]), 5) := by
  obtain ⟨nodes, -, -, reports, builds⟩ := display_respects_equality (ρ := fun _ => Empty)
  have different : gridType 1 ≠ gridType 3 := fun same =>
    absurd (congrArg TypeNode.serial same) (by decide)
  have same : (gridType 1).sameType (gridType 3) = true := TypeNode.sameType_iff_bare.mpr rfl
  have built : (gridDraft 1).build.runFrom 2 = (.ok (gridType 1), 3) := rfl
  have unmatched : textTable.get [gridType 1] = none := rfl
  have unmatched' : DispatchTable.empty.get [gridType 3] = none := rfl
  obtain ⟨tables, -⟩ := reports [(gridType 1).tag .unit] [(gridType 3).tag (.boolean true)]
    (.cons same .nil)
  obtain ⟨here, there⟩ := tables textTable .empty unmatched unmatched' 5
  exact ⟨different, same, built, unmatched, unmatched', nodes _ _ same, builds _ _ _ _ built,
    here, there⟩

end MultiDispatch
