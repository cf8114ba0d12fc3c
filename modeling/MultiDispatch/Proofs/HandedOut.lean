import MultiDispatch.Proofs.Lineage
import MultiDispatch.Proofs.Operands
import MultiDispatch.Proofs.SpecializedParams

set_option autoImplicit false
set_option relaxedAutoImplicit false

/-!
# Nodes that are handed out

There is no node but those that builds make.  What a rule for specializing returns, however it
comes about, is found in the nodes given to the rule or is built from such nodes; rules of this kind
are called confined.  With confined rules, everything that building, specializing, the walk over the
faces and a look at the parts of a node ever hand out goes back to builds that start from nothing.
So what building asks for holds of all nodes there are: each of them says which type is meant, and
each concrete one admits values, from literals or from data.

## Main definitions

* `MultiDispatch.TypeNode.parts` — the nodes that a node refers to directly.
* `MultiDispatch.MadeFrom` — a node is found in given nodes or built from them.
* `MultiDispatch.Interprets.IsConfined` — rules return what is made from the nodes given to them.
* `MultiDispatch.HandedOut` — the nodes that a caller can get hold of.
* `MultiDispatch.TypeNode.AdmitsValues` — literals or data never fail for want of a rule.

## Main results

* `MultiDispatch.MadeFrom.trans` — what is made from made nodes is made.
* `MultiDispatch.HandedOut.madeFrom` — nodes handed out are made from nothing.
* `MultiDispatch.Numeric.isConfined_numericRule` — the rules of numbers and vectors are confined.
* `MultiDispatch.Numeric.construction_invariant` — what runs of steps build, and what holds of every
  node handed out.
-/

namespace MultiDispatch

variable {ρ : Role → Type}

/-! ## Parts -/

mutual

/-- The nodes in a parameter. -/
def Param.nodes : Param ρ → List (TypeNode ρ)
  | .type node => [node]
  | .integer _ | .string _ | .boolean _ => []
  | .list items => Param.nodesOfAll items

/-- The nodes in a list of parameters. -/
def Param.nodesOfAll : List (Param ρ) → List (TypeNode ρ)
  | [] => []
  | param :: rest => param.nodes ++ Param.nodesOfAll rest

end

/-- The nodes that a node refers to: its template, those in its parameters and its faces. -/
def TypeNode.parts (node : TypeNode ρ) : List (TypeNode ρ) :=
  node.template.toList ++ (Param.nodesOfAll node.params ++ node.faces)

/-- The nodes that a draft refers to are those that its node would refer to. -/
def Draft.parts (draft : Draft ρ) : List (TypeNode ρ) := (draft.toNode 0).parts

/-- A node is found in another if it is that node, a part of it, a part of a part, and so on. -/
def TypeNode.FoundIn (node whole : TypeNode ρ) : Prop :=
  Relation.ReflTransGen (fun whole part => part ∈ whole.parts) whole node

/-- What a node reaches through faces is found in it. -/
lemma TypeNode.Reaches.foundIn {whole node : TypeNode ρ} (h : whole.Reaches node) :
    node.FoundIn whole := by
  refine Relation.ReflTransGen.mono ?_ _ _ h
  intro current face listed
  exact List.mem_append_right _ (List.mem_append_right _ listed)

/-! ## Nodes made from given nodes -/

/-- A node is made from given nodes if it is found in one of them or if a build makes it of parts
that are made from them. -/
inductive MadeFrom (given : List (TypeNode ρ)) : TypeNode ρ → Prop where
  | found {root node : TypeNode ρ} : root ∈ given → node.FoundIn root → MadeFrom given node
  | build {draft : Draft ρ} {next after : Serial} {node : TypeNode ρ} :
    (∀ part ∈ draft.parts, MadeFrom given part) →
    draft.build.runFrom next = (.ok node, after) → MadeFrom given node

/-- The parts of a node that is built are those of its draft. -/
lemma Draft.parts_of_build {draft : Draft ρ} {next after : Serial} {node : TypeNode ρ}
    (built : draft.build.runFrom next = (.ok node, after)) : node.parts = draft.parts := by
  obtain ⟨-, -, rfl, -⟩ := Draft.runFrom_build_eq_ok_iff.mp built
  rfl

namespace MadeFrom

variable {given base : List (TypeNode ρ)}

/-- A part of a node that is made is made. -/
lemma part {whole node : TypeNode ρ} (h : MadeFrom given whole) (listed : node ∈ whole.parts) :
    MadeFrom given node := by
  cases h with
  | found root_given inside => exact .found root_given (inside.tail listed)
  | build parts built =>
    rw [Draft.parts_of_build built] at listed
    exact parts node listed

/-- Whatever is found in a node that is made is made. -/
lemma foundIn {whole node : TypeNode ρ} (h : MadeFrom given whole) (inside : node.FoundIn whole) :
    MadeFrom given node := by
  induction inside with
  | refl => exact h
  | tail _ listed ih => exact ih.part listed

/-- What is made from made nodes is made. -/
theorem trans {node : TypeNode ρ} (h : MadeFrom given node)
    (all : ∀ root ∈ given, MadeFrom base root) : MadeFrom base node := by
  induction h with
  | found root_given inside => exact (all _ root_given).foundIn inside
  | build _ built ih => exact .build ih built

/-- What is made from nothing is made by a build. -/
lemma exists_build {node : TypeNode ρ} (h : MadeFrom [] node) :
    ∃ (draft : Draft ρ) (next after : Serial), draft.build.runFrom next = (.ok node, after) := by
  cases h with
  | found root_given _ => cases root_given
  | build _ built => exact ⟨_, _, _, built⟩

end MadeFrom

/-! ## Nodes handed out -/

/-- Rules for specializing are confined if they return only what is made from the node to be
specialized and the nodes in the parameters.  As nodes are made by builds alone, a rule has no way
to return anything else: a node that it keeps from before was itself built in the end from
nothing. -/
def Interprets.IsConfined (σ ρ : Role → Type) [Interprets σ ρ] : Prop :=
  ∀ (rule : σ .specialize) (generic : TypeNode ρ) (params : List (Param ρ)) (next after : Serial)
    (node : TypeNode ρ),
    (Interprets.specialize rule generic params).runFrom next = (.ok node, after) →
    MadeFrom (generic :: Param.nodesOfAll params) node

variable [∀ role, DecidableEq (ρ role)]

/-- The nodes that a caller can get hold of: those built of parts that were handed out, the parts of
nodes handed out, what the walks from them list, and their specializations by parameters that were
handed out. -/
inductive HandedOut [Rulebook ρ] : TypeNode ρ → Prop where
  | build {draft : Draft ρ} {next after : Serial} {node : TypeNode ρ} :
    (∀ part ∈ draft.parts, HandedOut part) → draft.build.runFrom next = (.ok node, after) →
    HandedOut node
  | part {whole node : TypeNode ρ} : HandedOut whole → node ∈ whole.parts → HandedOut node
  | walk {start node : TypeNode ρ} : HandedOut start → node ∈ start.lineage → HandedOut node
  | specialize {generic node : TypeNode ρ} {params : List (Param ρ)} {next after : Serial} :
    HandedOut generic → (∀ part ∈ Param.nodesOfAll params, HandedOut part) →
    (generic.specialize params).runFrom next = (.ok node, after) → HandedOut node

/-- What is built of no parts is handed out. -/
lemma HandedOut.of_no_parts [Rulebook ρ] {draft : Draft ρ} {next after : Serial}
    {node : TypeNode ρ} (none : draft.parts = [])
    (built : draft.build.runFrom next = (.ok node, after)) : HandedOut node := by
  refine .build ?_ built
  intro part listed
  rw [none] at listed
  cases listed

/-- With confined rules, every node handed out is made from nothing.

**Proof sketch.** Induction on how the node was handed out.  A specialization is what the rule
returned, so it is made from the generic node and the nodes in the parameters, which by the
induction hypotheses are made from nothing. -/
theorem HandedOut.madeFrom [Rulebook ρ] (confined : Interprets.IsConfined ρ ρ)
    {node : TypeNode ρ} (h : HandedOut node) : MadeFrom [] node := by
  induction h with
  | build _ built ih => exact .build ih built
  | part _ listed ih => exact ih.part listed
  | walk _ listed ih => exact ih.foundIn (TypeNode.mem_lineage.mp listed).foundIn
  | specialize _ _ yields ih_generic ih_params =>
    -- the check behind the rule lets its result pass or refuses it, but never changes it
    obtain ⟨rule, -, returns, -⟩ := TypeNode.specialize_eq_ok_iff.mp yields
    apply (confined rule _ _ _ _ _ returns).trans
    intro root root_given
    rcases List.mem_cons.mp root_given with rfl | in_params
    · exact ih_generic
    · exact ih_params root in_params

/-! ## Values of concrete nodes -/

section Values

variable [Rulebook ρ]

/-- Whether a node admits values: either reading a literal never fails for want of a rule, or making
a value from data never does. -/
def TypeNode.AdmitsValues (node : TypeNode ρ) : Prop :=
  (∀ source options typeName role,
    node.ofLiteral source options ≠ .error (.configuration (.missingRule typeName role))) ∨
  (∀ data typeName role, node.ofData data ≠ .error (.configuration (.missingRule typeName role)))

omit [∀ role, DecidableEq (ρ role)] in
/-- If the rules of a concrete node suffice, it admits values: a rule that reads literals fails only
for its own reasons, and one that makes values from data never fails. -/
lemma TypeNode.admitsValues {node : TypeNode ρ} (sufficient : node.interface.Suffices)
    (concrete : node.interface.isAbstract = false) : node.AdmitsValues := by
  rcases sufficient with isAbstract | ⟨-, reads | makes⟩
  · rw [concrete] at isAbstract
    cases isAbstract
  · left
    intro source options typeName role
    obtain ⟨rule, has⟩ := Option.ne_none_iff_exists'.mp reads
    rw [ofLiteral, parse, has]
    simp only
    cases Interprets.parse rule source options <;> simp [Except.mapError, Except.map]
  · right
    intro data typeName role
    obtain ⟨rule, has⟩ := Option.ne_none_iff_exists'.mp makes
    rw [ofData, create, has]
    simp [Except.map]

end Values

namespace Numeric

variable {υ : Role → Type} [∀ role, DecidableEq (υ role)] [Interprets υ (NumericRule υ)]

/-! ## The rules of numbers and vectors -/

omit [∀ role, DecidableEq (υ role)] [Interprets υ (NumericRule υ)] in
/-- What specializing by a length yields is built from the draft for a length. -/
lemma exists_build_of_specializeByLength {generic node : TypeNode (NumericRule υ)}
    {params : List (Param (NumericRule υ))} {next after : Serial}
    (h : (specializeByLength generic params).runFrom next = (.ok node, after)) :
    ∃ length, (lengthDraft generic length).build.runFrom next = (.ok node, after) := by
  rw [specializeByLength.eq_def] at h
  split at h
  · next length =>
    split at h
    · exact ⟨length, Minting.runFrom_mapFault_eq_ok_iff.mp h⟩
    · cases h
  · cases h

omit [∀ role, DecidableEq (υ role)] in
/-- If the other rules are confined, so are all rules: specializing by a length builds from a draft
whose only part is the node to be specialized. -/
theorem isConfined_numericRule (confined : Interprets.IsConfined υ (NumericRule υ)) :
    Interprets.IsConfined (NumericRule υ) (NumericRule υ) := by
  intro rule generic params next after node returns
  cases rule with
  | custom rule => exact confined rule generic params next after node returns
  | ofLength =>
    obtain ⟨length, built⟩ := exists_build_of_specializeByLength returns
    have parts : (lengthDraft generic length).parts = [generic, generic] := rfl
    refine .build ?_ built
    intro part listed
    have only : part = generic := by simpa [parts] using listed
    rw [only]
    exact .found List.mem_cons_self .refl

/-- The type of numbers is handed out. -/
lemma handedOut_number : HandedOut (number : TypeNode (NumericRule υ)) :=
  .of_no_parts rfl runFrom_build_numberDraft

/-- The type of vectors is handed out. -/
lemma handedOut_vector : HandedOut (vector : TypeNode (NumericRule υ)) :=
  .of_no_parts rfl runFrom_build_vectorDraft

/-- **Runs of steps build what they should, and this holds of all nodes there are.**  In the end of
a run of steps every field with a single value has the value given to it last, or is unset if none
was given, and the faces are those given since they were replaced the last time; nothing else of
the run shows in the node.  Building succeeds exactly if the draft says which type is meant and its
rules suffice; if it does not say this the failure is the same whatever the rules, and if only the
rules do not suffice the failure has the text of the node.  The node is the draft, with an empty
name left out.  Vectors of a length are handed out; and if the rules for specializing are confined,
every node handed out says which type is meant, and a concrete one admits values. -/
theorem construction_invariant :
    (∀ (steps : List (Draft.Step (NumericRule υ))) (next : Serial),
      (Draft.ofSteps steps).Outcome next) ∧
    (∀ (steps : List (Draft.Step (NumericRule υ))) (field : Draft.Field),
      (Draft.ofSteps steps).get field =
        (Draft.lastGiven? steps field).getD field.unset) ∧
    (∀ steps : List (Draft.Step (NumericRule υ)),
      (Draft.ofSteps steps).faces = Draft.facesGiven steps) ∧
    (∀ first second : List (Draft.Step (NumericRule υ)),
      (∀ field, Draft.lastGiven? first field = Draft.lastGiven? second field) →
      Draft.facesGiven first = Draft.facesGiven second →
      ∀ next, (Draft.ofSteps first).build.runFrom next =
        (Draft.ofSteps second).build.runFrom next) ∧
    (∀ (length : UInt64) (next after : Serial) (node : TypeNode (NumericRule υ)),
      (vectorOfLength length).runFrom next = (.ok node, after) → HandedOut node) ∧
    (Interprets.IsConfined υ (NumericRule υ) → ∀ node : TypeNode (NumericRule υ), HandedOut node →
      Identifies node.name node.template node.params ∧
      (node.interface.isAbstract = false → node.AdmitsValues)) := by
  refine ⟨fun steps => Draft.outcome _, Draft.get_ofSteps, Draft.faces_ofSteps, ?_, ?_, ?_⟩
  · intro first second values faces next
    rw [Draft.ofSteps_congr values faces]
  · intro length next after node made
    refine .specialize handedOut_vector ?_ made
    intro part listed
    cases listed
  · intro confined node handedOut
    obtain ⟨draft, next, after, built⟩ :=
      (handedOut.madeFrom (isConfined_numericRule confined)).exists_build
    obtain ⟨identified, sufficient⟩ := Draft.identifies_and_suffices_of_build built
    exact ⟨identified, TypeNode.admitsValues sufficient⟩

/-! ### Rules that build nothing -/

/-- Rules for specializing that build nothing. -/
inductive KeepRule : Role → Type where
  /-- Hands back the first node in the parameters, or else the node to be specialized. -/
  | handBack : KeepRule .specialize
  /-- Hands out the type of numbers, which it keeps from before. -/
  | keepNumber : KeepRule .specialize
deriving DecidableEq

namespace KeepRule

/-- The node that a rule hands out. -/
def pick : KeepRule .specialize → TypeNode (NumericRule KeepRule) →
    List (Param (NumericRule KeepRule)) → TypeNode (NumericRule KeepRule)
  | handBack, generic, params => (Param.nodesOfAll params).headD generic
  | keepNumber, _, _ => number

instance : Interprets KeepRule (NumericRule KeepRule) where
  parse rule := nomatch rule
  create rule := nomatch rule
  stringify rule := nomatch rule
  specialize rule generic params := return rule.pick generic params

/-- Both rules are confined: the one hands out a node given to it, the other a node that was built
from nothing. -/
lemma isConfined : Interprets.IsConfined KeepRule (NumericRule KeepRule) := by
  intro rule generic params next after node returns
  have result : (Except.ok (rule.pick generic params), next) =
      ((.ok node, after) : Except TypeFault _ × Serial) := returns
  cases result
  cases rule with
  | handBack =>
    refine .found ?_ .refl
    rw [pick]
    cases Param.nodesOfAll params <;> simp
  | keepNumber =>
    refine .build ?_ runFrom_build_numberDraft
    intro part listed
    cases listed

/-- A run that starts over twice, the second time with a name, and ends in an abstract type with the
first rule. -/
def keeperSteps : List (Draft.Step (NumericRule KeepRule)) :=
  [.addFaces [number], .specialization vector [.integer 3], .named "Keeper", .addFaces [number],
    .setAbstract true, .setSpecialize (some (.custom .handBack)), .addFaces [vector]]

/-- The node that the run builds. -/
def keeper : TypeNode (NumericRule KeepRule) where
  serial := 7
  name := some "Keeper"
  template := none
  params := []
  faces := [number, vector]
  interface := { isAbstract := true, specialize := some (.custom .handBack) }

/-- A run that starts over with an empty name, and in the end has a template but no parameters. -/
def namelessSteps : List (Draft.Step (NumericRule KeepRule)) :=
  [.named "Keeper", .setParams [.integer 3], .named "", .setTemplate (some vector)]

/-- A specialization of that node by a truth value, with an empty name. -/
def keptDraft : Draft (NumericRule KeepRule) :=
  { Draft.specialization keeper [.boolean true] with
    name := some "", interface := { isAbstract := true } }

/-- The node of that draft. -/
def kept : TypeNode (NumericRule KeepRule) := keptDraft.toNode 8

/-- The rule hands back the specialization, which was built before. -/
lemma runFrom_specialize_keeper :
    (keeper.specialize [.list [.type kept]]).runFrom 9 = (.ok kept, 9) := by
  have derives : keptDraft.DerivesFrom keeper := ⟨rfl, List.mem_singleton_self keeper⟩
  exact TypeNode.specialize_eq_ok_iff.mpr
    ⟨.custom .handBack, rfl, rfl, derives.toNode 8⟩

/-- The node that the rule hands back is handed out. -/
lemma handedOut_kept : HandedOut kept := by
  have keeper_built : (Draft.ofSteps keeperSteps).build.runFrom 7 = (.ok keeper, 8) := rfl
  have kept_built : keptDraft.build.runFrom 8 = (.ok kept, 9) := rfl
  have handedOut_keeper : HandedOut keeper := by
    refine .build ?_ keeper_built
    have parts : (Draft.ofSteps keeperSteps).parts = [number, vector] := rfl
    simp [parts, handedOut_number, handedOut_vector]
  refine .specialize handedOut_keeper ?_ runFrom_specialize_keeper
  have parts : keptDraft.parts = [keeper, keeper] := rfl
  have built : HandedOut kept := .build (by simp [parts, handedOut_keeper]) kept_built
  simpa [Param.nodesOfAll, Param.nodes] using built

/-- The type of vectors of three. -/
def threeVectors : TypeNode (NumericRule KeepRule) := (lengthDraft vector 3).toNode 9

/-- A run that ends with an empty name and a template without parameters is refused for this.  Of
the run to the keeper, two steps leave a specialization of vectors; four leave the name it starts
over with, but no rules, and are refused for want of these; all steps build the keeper, and the last
five are as good as all.  What its rule hands back says which type is meant, and vectors of three
are concrete and admit values. -/
theorem construction_invariant_keeper :
    (Draft.ofSteps namelessSteps).build.runFrom 7 = (.error .unspecified, 8) ∧
    (Draft.ofSteps (keeperSteps.take 2)).get .template = some vector ∧
    (Draft.ofSteps (keeperSteps.take 2)).get .params = [.integer 3] ∧
    (Draft.ofSteps (keeperSteps.take 2)).faces = [vector] ∧
    (Draft.ofSteps (keeperSteps.take 4)).build.runFrom 7 = (.error (.incomplete "Keeper"), 8) ∧
    (Draft.ofSteps keeperSteps).get .name = some "Keeper" ∧
    (Draft.ofSteps keeperSteps).get .template = none ∧
    (Draft.ofSteps keeperSteps).faces = [number, vector] ∧
    (Draft.ofSteps keeperSteps).build.runFrom 7 = (.ok keeper, 8) ∧
    (∀ field, Draft.lastGiven? keeperSteps field = Draft.lastGiven? (keeperSteps.drop 2) field) ∧
    Draft.facesGiven keeperSteps = Draft.facesGiven (keeperSteps.drop 2) ∧
    (Draft.ofSteps keeperSteps).build.runFrom 7 =
      (Draft.ofSteps (keeperSteps.drop 2)).build.runFrom 7 ∧
    Interprets.IsConfined KeepRule (NumericRule KeepRule) ∧
    HandedOut kept ∧ Identifies kept.name kept.template kept.params ∧
    (vectorOfLength 3).runFrom 9 = (.ok threeVectors, 10) ∧ HandedOut threeVectors ∧
    threeVectors.interface.isAbstract = false ∧ threeVectors.AdmitsValues := by
  obtain ⟨outcomes, fields, faces, runs, vectors, nodes⟩ := construction_invariant (υ := KeepRule)
  have nameless : ¬ Identifies (Draft.ofSteps namelessSteps).name
      (Draft.ofSteps namelessSteps).template (Draft.ofSteps namelessSteps).params := by
    rw [← Draft.isSpecified_iff]
    decide
  have without_rules : ¬ (Draft.ofSteps (keeperSteps.take 4)).interface.Suffices := by
    rw [← Interface.isUsable_iff]
    decide
  have not_empty : "Keeper" ≠ "" := by decide
  have refused := (outcomes (keeperSteps.take 4) 7).incomplete
    (.inl ⟨"Keeper", rfl, not_empty⟩) without_rules
  have built : (Draft.ofSteps keeperSteps).build.runFrom 7 = (.ok keeper, 8) := by
    have outcome := outcomes keeperSteps 7
    obtain ⟨node, built⟩ := outcome.succeeds_iff.mpr ⟨.inl ⟨"Keeper", rfl, not_empty⟩, .inl rfl⟩
    rw [built, outcome.stored node 8 built]
    rfl
  have values : ∀ field,
      Draft.lastGiven? keeperSteps field = Draft.lastGiven? (keeperSteps.drop 2) field := by
    intro field
    cases field <;> rfl
  have same_faces : Draft.facesGiven keeperSteps = Draft.facesGiven (keeperSteps.drop 2) := rfl
  have three : (vectorOfLength 3).runFrom 9 = (.ok threeVectors, 10) := by
    rw [runFrom_vectorOfLength]
    rfl
  have three_handedOut : HandedOut threeVectors := vectors 3 9 10 _ three
  exact ⟨(outcomes _ 7).unspecified nameless, fields _ .template, fields _ .params, faces _,
    refused, fields _ .name, fields _ .template, faces _, built, values, same_faces,
    runs _ _ values same_faces 7, isConfined, handedOut_kept,
    (nodes isConfined kept handedOut_kept).1, three, three_handedOut, rfl,
    (nodes isConfined _ three_handedOut).2 rfl⟩

end KeepRule

end Numeric

end MultiDispatch
