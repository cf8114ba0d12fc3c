import MultiDispatch.Proofs.OperatorSoundness

set_option autoImplicit false
set_option relaxedAutoImplicit false

/-!
# Soundness of expressions

An expression applies operators by name to the values of its operands, down to the values at its
leaves.  If these are numbers and vectors of a length, so is every value that turns up on the way,
and an application fails for one of three reasons only, each of which can be told from its name
and the shapes of its operands.

## Main definitions

* `MultiDispatch.Numeric.Expression`, `MultiDispatch.Numeric.Expression.eval` — expressions and
  their evaluation.
* `MultiDispatch.Numeric.SoundApplication` — what may come of an application and when.

## Main results

* `MultiDispatch.Numeric.soundApplication` — this is what comes of every application to numbers and
  vectors.
* `MultiDispatch.Numeric.Expression.eval_sound` — evaluation is sound throughout.
-/

namespace MultiDispatch.Numeric

variable {υ : Role → Type}

/-! ## Expressions -/

/-- An expression over typed values. -/
inductive Expression (υ : Role → Type) where
  /-- A value. -/
  | leaf (value : Tagged (NumericRule υ))
  /-- The operator of a name applied to operands. -/
  | apply (name : String) (operands : List (Expression υ))

namespace Expression

mutual

/-- The parts of an expression that are expressions, itself included. -/
def parts : Expression υ → List (Expression υ)
  | .leaf value => [.leaf value]
  | .apply name operands => .apply name operands :: partsOfAll operands

/-- The parts of expressions. -/
def partsOfAll : List (Expression υ) → List (Expression υ)
  | [] => []
  | expression :: rest => expression.parts ++ partsOfAll rest

end

mutual

/-- The parts of a part of an expression are parts of the expression. -/
theorem parts_subset : ∀ {expression part : Expression υ}, part ∈ expression.parts →
    part.parts ⊆ expression.parts
  | .leaf value, part, h => by
    rw [parts, List.mem_singleton] at h
    rw [h]
    exact List.Subset.refl _
  | .apply name operands, part, h => by
    rw [parts, List.mem_cons] at h
    rcases h with rfl | there
    · exact List.Subset.refl _
    · rw [parts]
      exact List.subset_cons_of_subset _ (parts_subset_partsOfAll there)

/-- The parts of the parts of expressions are their parts. -/
theorem parts_subset_partsOfAll : ∀ {expressions : List (Expression υ)} {part : Expression υ},
    part ∈ partsOfAll expressions → part.parts ⊆ partsOfAll expressions
  | [], part, h => by
    rw [partsOfAll] at h
    cases h
  | expression :: rest, part, h => by
    rw [partsOfAll, List.mem_append] at h
    rw [partsOfAll]
    rcases h with here | there
    · exact List.subset_append_of_subset_left _ (parts_subset here)
    · exact List.subset_append_of_subset_right _ (parts_subset_partsOfAll there)

end

/-- An expression is a part of itself. -/
lemma self_mem_parts (expression : Expression υ) : expression ∈ expression.parts := by
  cases expression <;> simp [parts]

section Evaluation

variable [∀ role, DecidableEq (υ role)]

/-- The call of an operator of a new standard registry. -/
def callOperator (name : String) (values : List (Tagged (NumericRule υ))) :
    Minting DispatchFault (Tagged (NumericRule υ)) := do
  let registry ← ExceptT.lift standardRegistry
  registry.call name values

mutual

/-- The value of an expression: the operands are evaluated from left to right, and the first
failure is that of the whole. -/
def eval : Expression υ → Minting DispatchFault (Tagged (NumericRule υ))
  | .leaf value => return value
  | .apply name operands => do
    let values ← evalAll operands
    callOperator name values

/-- The values of expressions, from left to right. -/
def evalAll : List (Expression υ) → Minting DispatchFault (List (Tagged (NumericRule υ)))
  | [] => return []
  | expression :: rest => do
    let value ← expression.eval
    let values ← evalAll rest
    return value :: values

end

mutual

/-- The failure of an evaluation is that of an application whose operands have values. -/
theorem exists_application_of_fails : ∀ (expression : Expression υ) {next after : Serial}
    {fault : DispatchFault}, expression.eval.runFrom next = (.error fault, after) →
      ∃ name operands values start mid, apply name operands ∈ expression.parts ∧
        (evalAll operands).runFrom start = (.ok values, mid) ∧
        (callOperator name values).runFrom mid = (.error fault, after)
  | .leaf value, next, after, fault, h => by
    rw [eval, Minting.runFrom_pure] at h
    cases h
  | .apply name operands, next, after, fault, h => by
    rw [eval, Minting.runFrom_bind] at h
    split at h
    · next values mid evaluated =>
      exact ⟨name, operands, values, next, mid, self_mem_parts _, evaluated, h⟩
    · next mid failed =>
      obtain ⟨⟨⟩, rfl⟩ := Prod.mk.inj h
      obtain ⟨name', operands', values, start, mid', there, rest⟩ :=
        exists_application_of_fails_all operands failed
      refine ⟨name', operands', values, start, mid', ?_, rest⟩
      rw [parts]
      exact List.mem_cons_of_mem _ there

/-- The failure of an evaluation of expressions is that of an application whose operands have
values. -/
theorem exists_application_of_fails_all : ∀ (expressions : List (Expression υ))
    {next after : Serial} {fault : DispatchFault},
    (evalAll expressions).runFrom next = (.error fault, after) →
      ∃ name operands values start mid, apply name operands ∈ partsOfAll expressions ∧
        (evalAll operands).runFrom start = (.ok values, mid) ∧
        (callOperator name values).runFrom mid = (.error fault, after)
  | [], next, after, fault, h => by
    rw [evalAll, Minting.runFrom_pure] at h
    cases h
  | expression :: rest, next, after, fault, h => by
    simp only [evalAll, Minting.runFrom_bind, Minting.runFrom_pure] at h
    simp only [partsOfAll, List.mem_append]
    split at h
    · split at h
      · cases h
      · next failed =>
        obtain ⟨⟨⟩, rfl⟩ := Prod.mk.inj h
        obtain ⟨name, operands, values, start, mid, there, outcome⟩ :=
          exists_application_of_fails_all rest failed
        exact ⟨name, operands, values, start, mid, Or.inr there, outcome⟩
    · next failed =>
      obtain ⟨⟨⟩, rfl⟩ := Prod.mk.inj h
      obtain ⟨name, operands, values, start, mid, there, outcome⟩ :=
        exists_application_of_fails expression failed
      exact ⟨name, operands, values, start, mid, Or.inl there, outcome⟩

end

end Evaluation

end Expression

variable [∀ role, DecidableEq (υ role)] [Interprets υ (NumericRule υ)]

/-! ## Applications -/

/-- What comes of the application of an operator to operands of some shapes: a success is a number
or a vector, and a failure has one of three causes, each of them exactly under its condition. -/
structure SoundApplication (name : String) (shapes : List Shape)
    (result : Except DispatchFault (Tagged (NumericRule υ))) : Prop where
  wellFormed : ∀ value, result = .ok value → WellFormed value
  /-- The operator is unknown exactly if the name is none of the symbols. -/
  unknownOperator_iff :
    result = .error (.lookup (.unknownOperator name)) ↔ name ∉ symbols
  /-- There is no match exactly if the operator does not take the kinds of the operands. -/
  noMatch_iff : (∃ types, result = .error (.noMatch types)) ↔
    name ∈ symbols ∧ (name, shapes.map Shape.kind) ∉ operandKinds
  /-- An operand is invalid exactly if vectors of different lengths are combined item by item. -/
  invalidOperand_iff :
    (∃ operation operands, result = .error (.type (.invalidOperand operation operands))) ↔
      MismatchedLengths name shapes
  noOther : ∀ fault, result = .error fault →
    fault = .lookup (.unknownOperator name) ∨ (∃ types, fault = .noMatch types) ∨
      ∃ operation operands, fault = .type (.invalidOperand operation operands)

omit [∀ role, DecidableEq (υ role)] [Interprets υ (NumericRule υ)] in
/-- Each line of the table stands next to an entry of the standard registry. -/
lemma exists_mem_zip_iff (first : Serial) (line : String × List Kind) :
    (∃ entry : Registry.Entry (NumericRule υ),
      (line, entry) ∈ operandKinds.zip (standardEntries first)) ↔ line ∈ operandKinds := by
  have lines : (operandKinds.zip (standardEntries first :
      List (Registry.Entry (NumericRule υ)))).map (·.1) = operandKinds :=
    List.map_fst_zip (by simp [operandKinds, standardEntries])
  conv_rhs => rw [← lines]
  simp

/-- Operators that are applied to vectors of different lengths take two vectors. -/
lemma mem_operandKinds_of_mismatched {name : String} {shapes : List Shape}
    (h : MismatchedLengths name shapes) :
    name ∈ symbols ∧ (name, shapes.map Shape.kind) ∈ operandKinds := by
  obtain ⟨itemwise, m, n, -, rfl⟩ := h
  change name ∈ symbols ∧ (name, [Kind.vector, Kind.vector]) ∈ operandKinds
  simp only [List.mem_cons, List.not_mem_nil, or_false] at itemwise
  rcases itemwise with rfl | rfl | rfl <;> decide

/-- The names in the table are the symbols. -/
lemma mem_symbols_of_mem_operandKinds : ∀ line ∈ operandKinds, line.1 ∈ symbols := by decide

/-- A call by the log of the standard registry on numbers and vectors is sound.

**Proof sketch.** Without an entry of the name the operator is unknown.  Without a line for the
kinds of the operands no entry accepts them.  Otherwise the entry of the line decides, and what it
results in is expected. -/
lemma soundApplication_callByLog (first : Serial) (name : String)
    {values : List (Tagged (NumericRule υ))} {shapes : List Shape}
    (h : List.Forall₂ HasShape values shapes) (next : Serial) :
    SoundApplication name shapes
      (Registry.callByLog (standardEntries first) name values next).1 := by
  have no_mismatch : (name, shapes.map Shape.kind) ∉ operandKinds →
      ¬ MismatchedLengths name shapes :=
    fun absent mismatched => absent (mem_operandKinds_of_mismatched mismatched).2
  rw [Registry.callByLog]
  by_cases known : name ∈ symbols
  · rw [if_pos ((exists_name_standardEntries_iff first name).mpr known),
      firstAccepting_standardEntries first name (forall₂_isOfKind h)]
    cases found : (operandKinds.zip (standardEntries first)).find?
        fun line => line.1 = (name, shapes.map Shape.kind) with
    | none =>
      have absent : (name, shapes.map Shape.kind) ∉ operandKinds := by
        rw [← exists_mem_zip_iff (υ := υ) first]
        rintro ⟨entry, listed⟩
        simpa using List.find?_eq_none.mp found _ listed
      constructor <;> simp [known, absent, no_mismatch absent]
    | some line =>
      obtain ⟨line, entry⟩ := line
      obtain rfl : line = (name, shapes.map Shape.kind) := by simpa using List.find?_some found
      have listed := List.mem_of_find?_eq_some found
      have taken := (exists_mem_zip_iff first _).mp ⟨entry, listed⟩
      have expected := expected_of_mem_zip listed h rfl next
      simp only [Option.map_some]
      by_cases mismatched : MismatchedLengths name shapes
      · obtain ⟨operation, operands, fails⟩ := expected.fails mismatched
        rw [fails]
        constructor <;> simp [known, taken, mismatched, TypeFault.invalidOperand]
      · obtain ⟨value, succeeds, wellFormed⟩ := expected.succeeds mismatched
        rw [succeeds]
        constructor <;> simp [known, taken, mismatched, wellFormed]
  · have absent : (name, shapes.map Shape.kind) ∉ operandKinds :=
      fun listed => known (mem_symbols_of_mem_operandKinds _ listed)
    rw [if_neg ((exists_name_standardEntries_iff first name).not.mpr known)]
    constructor <;> simp [known, no_mismatch absent]

/-- Every application to numbers and vectors is sound. -/
theorem soundApplication (name : String) {values : List (Tagged (NumericRule υ))}
    {shapes : List Shape} (h : List.Forall₂ HasShape values shapes) (next : Serial) :
    SoundApplication name shapes ((Expression.callOperator name values).runFrom next).1 := by
  have call : (Expression.callOperator name values).runFrom next =
      Registry.callByLog (standardEntries next) name values (next + 5) := by
    rw [Expression.callOperator, Minting.runFrom_bind, Minting.runFrom_lift]
    exact Registry.runFrom_call_ofEntries ..
  rw [call]
  exact soundApplication_callByLog next name h (next + 5)

/-! ## Evaluation -/

/-- Numbers and vectors have shapes. -/
lemma exists_shapes {values : List (Tagged (NumericRule υ))}
    (h : ∀ value ∈ values, WellFormed value) : ∃ shapes, List.Forall₂ HasShape values shapes := by
  induction values with
  | nil => exact ⟨[], .nil⟩
  | cons value values ih =>
    obtain ⟨shape, first⟩ := h value List.mem_cons_self
    obtain ⟨shapes, others⟩ := ih fun other there => h other (List.mem_cons_of_mem _ there)
    exact ⟨shape :: shapes, .cons first others⟩

namespace Expression

mutual

/-- If the leaves of an expression are numbers and vectors, so is its value.

**Proof sketch.** Induction on the expression.  The values of the operands are numbers and vectors,
and the application to them is sound. -/
theorem wellFormed_of_eval : ∀ (expression : Expression υ),
    (∀ value, leaf value ∈ expression.parts → WellFormed value) → ∀ {next after : Serial}
    {value : Tagged (NumericRule υ)}, expression.eval.runFrom next = (.ok value, after) →
      WellFormed value
  | .leaf value, leaves, next, after, result, h => by
    rw [eval, Minting.runFrom_pure] at h
    obtain ⟨⟨⟩, -⟩ := Prod.mk.inj h
    exact leaves value (self_mem_parts _)
  | .apply name operands, leaves, next, after, result, h => by
    rw [eval, Minting.runFrom_bind] at h
    split at h
    · next values mid evaluated =>
      have operand_leaves : ∀ value, leaf value ∈ partsOfAll operands → WellFormed value :=
        fun value there => leaves value (by rw [parts]; exact List.mem_cons_of_mem _ there)
      obtain ⟨shapes, shaped⟩ := exists_shapes
        (wellFormed_of_evalAll operands operand_leaves evaluated)
      exact (soundApplication name shaped mid).wellFormed result (by rw [h])
    · cases h

/-- If the leaves of expressions are numbers and vectors, so are their values. -/
theorem wellFormed_of_evalAll : ∀ (expressions : List (Expression υ)),
    (∀ value, leaf value ∈ partsOfAll expressions → WellFormed value) → ∀ {next after : Serial}
    {values : List (Tagged (NumericRule υ))},
    (evalAll expressions).runFrom next = (.ok values, after) →
      ∀ value ∈ values, WellFormed value
  | [], leaves, next, after, values, h => by
    rw [evalAll, Minting.runFrom_pure] at h
    obtain ⟨⟨⟩, -⟩ := Prod.mk.inj h
    simp
  | expression :: rest, leaves, next, after, values, h => by
    simp only [evalAll, Minting.runFrom_bind, Minting.runFrom_pure] at h
    simp only [partsOfAll, List.mem_append] at leaves
    split at h
    · next first mid evaluated =>
      split at h
      · next others _ evaluated_rest =>
        obtain ⟨⟨⟩, -⟩ := Prod.mk.inj h
        rw [List.forall_mem_cons]
        exact ⟨wellFormed_of_eval expression (fun value there => leaves value (Or.inl there))
            evaluated,
          wellFormed_of_evalAll rest (fun value there => leaves value (Or.inr there))
            evaluated_rest⟩
      · cases h
    · cases h

end

/-- **Expressions over numbers and vectors are sound.**  If the leaves of an expression are numbers
and vectors of a length, then every part of it that has a value has a number or a vector as its
value; every application whose operands have values is sound, so it fails with one of three causes
and exactly under the condition of each; and the failure of a part is that of such an
application. -/
theorem eval_sound (expression : Expression υ)
    (leaves : ∀ value, leaf value ∈ expression.parts → WellFormed value)
    (part : Expression υ) (isPart : part ∈ expression.parts) (next : Serial) :
    (∀ value after, part.eval.runFrom next = (.ok value, after) → WellFormed value) ∧
    (∀ name operands values mid, part = apply name operands →
      (evalAll operands).runFrom next = (.ok values, mid) →
      (∀ value ∈ values, WellFormed value) ∧
      ∀ shapes, List.Forall₂ HasShape values shapes →
        SoundApplication name shapes (part.eval.runFrom next).1) ∧
    (∀ fault after, part.eval.runFrom next = (.error fault, after) →
      ∃ name operands values start mid, apply name operands ∈ part.parts ∧
        (evalAll operands).runFrom start = (.ok values, mid) ∧
        (apply name operands).eval.runFrom start = (.error fault, after)) := by
  have part_leaves : ∀ value, leaf value ∈ part.parts → WellFormed value :=
    fun value there => leaves value (parts_subset isPart there)
  have evaluates : ∀ {name operands values start mid},
      (evalAll operands).runFrom start = (.ok values, mid) →
      (apply name operands : Expression υ).eval.runFrom start =
        (callOperator name values).runFrom mid := by
    intro name operands values start mid evaluated
    rw [eval, Minting.runFrom_bind, evaluated]
  refine ⟨fun value after => wellFormed_of_eval part part_leaves, ?_, fun fault after fails => ?_⟩
  · rintro name operands values mid rfl evaluated
    have operand_leaves : ∀ value, leaf value ∈ partsOfAll operands → WellFormed value :=
      fun value there => part_leaves value (by rw [parts]; exact List.mem_cons_of_mem _ there)
    refine ⟨wellFormed_of_evalAll operands operand_leaves evaluated, fun shapes shaped => ?_⟩
    rw [evaluates evaluated]
    exact soundApplication name shaped mid
  · obtain ⟨name, operands, values, start, mid, there, evaluated, failed⟩ :=
      exists_application_of_fails part fails
    exact ⟨name, operands, values, start, mid, there, evaluated,
      by rw [evaluates evaluated, failed]⟩

/-! ## Two vectors of different lengths -/

/-- A vector of these items, its type built with a serial number. -/
def vectorOfItems (serial : Serial) (items : List Payload) :
    Tagged (NumericRule fun _ => Empty) :=
  ((lengthDraft vector (UInt64.ofNat items.length).toInt64).toNode serial).tag (.list items)

/-- A vector of two items. -/
def shortVector : Tagged (NumericRule fun _ => Empty) :=
  vectorOfItems 7 [.integer 1, .boolean true]

/-- A vector of three items. -/
def longVector : Tagged (NumericRule fun _ => Empty) :=
  vectorOfItems 8 [.integer 1, .integer 2, .boolean false]

/-- A product one of whose factors is the sum of vectors of different lengths. -/
def mixedProduct : Expression fun _ => Empty :=
  .apply "*" [.apply "+" [.leaf shortVector, .leaf longVector],
    .leaf (Numeric.number.tag (.integer 2))]

/-- The short vector has length two. -/
lemma hasShape_shortVector : HasShape shortVector (.vector 2) := by
  have made : (vectorOfLength 2).runFrom 7 = (.ok shortVector.type, 8) := by
    rw [runFrom_vectorOfLength]
    rfl
  exact .vector made rfl (by decide)

/-- The long vector has length three. -/
lemma hasShape_longVector : HasShape longVector (.vector 3) := by
  have made : (vectorOfLength 3).runFrom 8 = (.ok longVector.type, 9) := by
    rw [runFrom_vectorOfLength]
    rfl
  exact .vector made rfl (by decide)

/-- The leaves of the product are a number and vectors. -/
lemma wellFormed_leaves_mixedProduct :
    ∀ value, leaf value ∈ mixedProduct.parts → WellFormed value := by
  intro value here
  simp only [mixedProduct, parts, partsOfAll, List.mem_cons, List.mem_append, List.not_mem_nil,
    or_false, reduceCtorEq, false_or, leaf.injEq] at here
  rcases here with (rfl | rfl) | rfl
  exacts [⟨_, hasShape_shortVector⟩, ⟨_, hasShape_longVector⟩, ⟨_, .number rfl⟩]

/-- The sum inside the product fails with an invalid operand. -/
theorem eval_sound_mixedProduct :
    (∀ value, leaf value ∈ mixedProduct.parts → WellFormed value) ∧
    apply "+" [leaf shortVector, leaf longVector] ∈ mixedProduct.parts ∧
    ∃ operation operands, ((apply "+" [leaf shortVector, leaf longVector]).eval.runFrom 9).1 =
      .error (.type (.invalidOperand operation operands)) := by
  have isPart : apply "+" [leaf shortVector, leaf longVector] ∈ mixedProduct.parts := by
    simp [mixedProduct, parts, partsOfAll]
  refine ⟨wellFormed_leaves_mixedProduct, isPart, ?_⟩
  obtain ⟨-, application, -⟩ :=
    eval_sound mixedProduct wellFormed_leaves_mixedProduct _ isPart 9
  obtain ⟨-, sound⟩ := application "+" _ [shortVector, longVector] 9 rfl rfl
  have outcome := sound [.vector 2, .vector 3]
    (.cons hasShape_shortVector (.cons hasShape_longVector .nil))
  exact outcome.invalidOperand_iff.mpr ⟨by decide, 2, 3, by decide, rfl⟩

end Expression

end MultiDispatch.Numeric
