import MultiDispatch.Proofs.Operands

set_option autoImplicit false
set_option relaxedAutoImplicit false

/-!
# Soundness of the standard operators

The type of a result and its payload come from two rules that know nothing of each other.  For
operands that are numbers and vectors of a length they always fit: an operator that takes the
kinds of its operands results in a number or a vector again, and the only way to fail is to
combine two vectors of different lengths item by item.

## Main definitions

* `MultiDispatch.Numeric.MismatchedLengths` — an operator that works item by item is applied to
  vectors of different lengths.
* `MultiDispatch.Numeric.Expected` — what an operator that takes its operands may result in.

## Main results

* `MultiDispatch.Numeric.numbers_eq_ok_iff` — which payloads are vectors of which numbers.
* `MultiDispatch.Numeric.expected_of_mem_zip` — every entry of the standard registry results in what
  is expected.
-/

namespace MultiDispatch.Numeric

/-! ## The numbers in a vector -/

/-- Items have the numbers of a list as their coercions exactly if they have them one by one. -/
lemma mapM_toFloat?_eq_some_iff {items : List Payload} {xs : List Float} :
    items.mapM Payload.toFloat? = some xs ↔
      List.Forall₂ (fun item x => item.toFloat? = some x) items xs := by
  induction items generalizing xs with
  | nil => cases xs <;> simp
  | cons item items ih =>
    rw [List.mapM_cons]
    cases xs with
    | nil => cases item.toFloat? <;> cases items.mapM Payload.toFloat? <;> simp
    | cons x xs =>
      rw [List.forall₂_cons, ← ih]
      cases item.toFloat? <;> cases items.mapM Payload.toFloat? <;> simp

/-- A payload is a vector of numbers exactly if it is a list of items with these coercions. -/
lemma numbers_eq_ok_iff {operation : String} {payload : Payload} {xs : List Float} :
    numbers operation payload = .ok xs ↔
      ∃ items, payload = .list items ∧
        List.Forall₂ (fun item x => item.toFloat? = some x) items xs := by
  rw [numbers]
  cases payload with
  | list items =>
    simp only [Payload.toList?, Option.bind_some, Payload.list.injEq, exists_eq_left',
      ← mapM_toFloat?_eq_some_iff]
    cases items.mapM Payload.toFloat? <;> simp
  | number _ | integer _ | boolean _ | string _ | unit => simp [Payload.toList?]

/-- Two vectors of the same length give their numbers in pairs. -/
lemma numberPairs_of_length_eq {operation : String} {a b : Payload} {xs ys : List Float}
    (first : numbers operation a = .ok xs) (second : numbers operation b = .ok ys)
    (same : xs.length = ys.length) : numberPairs operation a b = .ok (xs.zip ys) := by
  simp only [numberPairs, first, second, same, if_true]

/-- Two vectors of different lengths are refused, whatever their numbers. -/
lemma numberPairs_of_length_ne {operation : String} {a b : Payload} {xs ys : List Float}
    (first : numbers operation a = .ok xs) (second : numbers operation b = .ok ys)
    (differ : xs.length ≠ ys.length) :
    numberPairs operation a b =
      .error (.invalidOperand operation [listName xs.length, listName ys.length]) := by
  simp only [numberPairs, first, second, differ, if_false]

/-! ## Operands and results of a shape -/

section Shapes

variable {υ : Role → Type} [∀ role, DecidableEq (υ role)] [Interprets υ (NumericRule υ)]
  {value : Tagged (NumericRule υ)}

/-- A number has the type of numbers and a numeric coercion. -/
lemma HasShape.exists_toFloat? (h : HasShape value .number) :
    value.type = Numeric.number ∧ ∃ x, value.payload.toFloat? = some x := by
  cases h with
  | number numeric => exact ⟨rfl, Option.isSome_iff_exists.mp numeric⟩

/-- A vector of a length has so many numbers. -/
lemma HasShape.exists_numbers {length : UInt64} (h : HasShape value (.vector length))
    (operation : String) :
    ∃ xs, numbers operation value.payload = .ok xs ∧ xs.length = length.toNat := by
  cases h with
  | @vector _ _ _ _ items made count numeric =>
    refine ⟨items.map fun item => item.toFloat?.getD 0, numbers_eq_ok_iff.mpr ⟨items, rfl, ?_⟩,
      by rw [List.length_map, count]⟩
    rw [List.forall₂_map_right_iff, List.forall₂_same]
    intro item here
    obtain ⟨x, coerced⟩ := Option.isSome_iff_exists.mp (numeric item here)
    rw [coerced, Option.getD_some]

/-- Every number of the type of numbers is a number. -/
lemma hasShape_number (x : Float) :
    HasShape (Numeric.number.tag (.number x) : Tagged (NumericRule υ)) .number :=
  .number rfl

/-- The type of a vector with as many numbers as before is a vector of the same length. -/
lemma HasShape.withNumbers {length : UInt64} (h : HasShape value (.vector length))
    {xs : List Float} (count : xs.length = length.toNat) :
    HasShape (value.type.tag (.list (xs.map .number))) (.vector length) := by
  cases h with
  | vector made _ _ =>
    refine .vector made (by rw [List.length_map, count]) fun item here => ?_
    obtain ⟨x, -, rfl⟩ := List.mem_map.mp here
    rfl

/-! ## Entries of the registry -/

/-- Whether an operator that works item by item is applied to vectors of different lengths. -/
def MismatchedLengths (name : String) (shapes : List Shape) : Prop :=
  name ∈ ["+", "-", "*"] ∧ ∃ m n, m ≠ n ∧ shapes = [.vector m, .vector n]

/-- What an operator that takes the kinds of its operands may result in: it fails for vectors of
different lengths that it would combine item by item, and otherwise results in a number or a
vector. -/
structure Expected (name : String) (shapes : List Shape)
    (result : Except DispatchFault (Tagged (NumericRule υ))) : Prop where
  fails : MismatchedLengths name shapes →
    ∃ operation operands, result = .error (.type (.invalidOperand operation operands))
  succeeds : ¬ MismatchedLengths name shapes → ∃ value, result = .ok value ∧ WellFormed value

variable {shapes : List Shape} {values : List (Tagged (NumericRule υ))}

/-- A success is expected where lengths cannot be mismatched. -/
lemma Expected.of_ok {name : String} {result : Except DispatchFault (Tagged (NumericRule υ))}
    (value : Tagged (NumericRule υ)) (ok : result = .ok value) (wellFormed : WellFormed value)
    (fits : ¬ MismatchedLengths name shapes) : Expected name shapes result :=
  ⟨fun mismatched => absurd mismatched fits, fun _ => ⟨value, ok, wellFormed⟩⟩

/-- Operands of two kinds are two operands of these kinds. -/
lemma exists_pair (h : List.Forall₂ HasShape values shapes) {k₁ k₂ : Kind}
    (kinds : shapes.map Shape.kind = [k₁, k₂]) :
    ∃ a b s t, values = [a, b] ∧ shapes = [s, t] ∧ HasShape a s ∧ HasShape b t ∧
      s.kind = k₁ ∧ t.kind = k₂ := by
  obtain ⟨s, rest, rfl, first, tail⟩ := List.map_eq_cons_iff.mp kinds
  obtain ⟨t, rest, rfl, second, tail⟩ := List.map_eq_cons_iff.mp tail
  obtain rfl := List.map_eq_nil_iff.mp tail
  cases h with
  | @cons a _ _ _ ha h =>
    cases h with
    | @cons b _ _ _ hb h =>
      cases h
      exact ⟨a, b, s, t, rfl, rfl, ha, hb, first, second⟩

/-- The shape of a number. -/
lemma Shape.eq_number {s : Shape} (h : s.kind = .number) : s = .number := by
  cases s with
  | number => rfl
  | vector _ => cases h

/-- The shape of a vector has a length. -/
lemma Shape.exists_eq_vector {s : Shape} (h : s.kind = .vector) : ∃ n, s = .vector n := by
  cases s with
  | number => cases h
  | vector n => exact ⟨n, rfl⟩

/-- One operand of a kind is an operand of this kind. -/
lemma exists_single (h : List.Forall₂ HasShape values shapes) {k : Kind}
    (kinds : shapes.map Shape.kind = [k]) :
    ∃ a s, values = [a] ∧ shapes = [s] ∧ HasShape a s ∧ s.kind = k := by
  obtain ⟨s, rest, rfl, first, tail⟩ := List.map_eq_cons_iff.mp kinds
  obtain rfl := List.map_eq_nil_iff.mp tail
  cases h with
  | @cons a _ _ _ ha h =>
    cases h
    exact ⟨a, s, rfl, rfl, ha, first⟩

variable {name operation : String} {signature : Signature (NumericRule υ)} {serial : Serial}
  {resultType : ResultType (NumericRule υ)}
  {compute : List (Tagged (NumericRule υ)) → Except TypeFault Payload}

omit [∀ role, DecidableEq (υ role)] [Interprets υ (NumericRule υ)] in
/-- The rule that takes the type of the first argument succeeds if there is one. -/
lemma resolve_typeOfFirst (first : Tagged (NumericRule υ)) (rest : List (Tagged (NumericRule υ)))
    (next : Serial) :
    ((.computed Lift.typeOfFirst : ResultType (NumericRule υ)).resolve (first :: rest)).runFrom
      next = (.ok first.type, next) := rfl

omit [∀ role, DecidableEq (υ role)] [Interprets υ (NumericRule υ)] in
/-- The rule that takes the type of the second argument succeeds if there are two. -/
lemma resolve_typeOfSecond (first second : Tagged (NumericRule υ))
    (rest : List (Tagged (NumericRule υ))) (next : Serial) :
    ((.computed Lift.typeOfSecond : ResultType (NumericRule υ)).resolve
      (first :: second :: rest)).runFrom next = (.ok second.type, next) := rfl

omit [∀ role, DecidableEq (υ role)] [Interprets υ (NumericRule υ)] in
/-- The answer of an entry whose rule for the type succeeds is that of its rule for the payload. -/
lemma answer_of_type {node : TypeNode (NumericRule υ)} {next after : Serial}
    (type : (resultType.resolve values).runFrom next = (.ok node, after)) :
    (⟨name, signature, ⟨serial, resultType, compute⟩⟩ : Registry.Entry (NumericRule υ)).answer
        values next =
      (((compute values).mapError DispatchFault.type).map node.tag, after) := by
  have typed := Registry.runFrom_typeOf_entry
    ⟨name, signature, ⟨serial, resultType, compute⟩⟩ values next
  rw [Implementation.typeOf, type] at typed
  simp only [Registry.Entry.answer, ← typed]
  cases compute values <;> rfl

/-- Operators on two numbers result in a number. -/
lemma expected_binaryOperator (function : Float → Float → Float) (next : Serial)
    (h : List.Forall₂ HasShape values shapes)
    (kinds : shapes.map Shape.kind = [.number, .number]) :
    Expected name shapes ((⟨name, signature, binaryOperator serial operation function⟩ :
      Registry.Entry (NumericRule υ)).answer values next).1 := by
  obtain ⟨a, b, s, t, rfl, rfl, ha, hb, hs, ht⟩ := exists_pair h kinds
  obtain rfl := Shape.eq_number hs
  obtain rfl := Shape.eq_number ht
  obtain ⟨type, x, hx⟩ := ha.exists_toFloat?
  obtain ⟨-, y, hy⟩ := hb.exists_toFloat?
  have computed : Lift.binary (Lift.onNumbers operation function) [a, b] =
      .ok (.number (function x y)) := by
    simp only [Lift.binary, Lift.onNumbers, hx, hy]
  refine .of_ok (number.tag (.number (function x y))) ?_ ⟨_, hasShape_number _⟩ ?_
  · rw [binaryOperator, answer_of_type (resolve_typeOfFirst a _ next), computed, type]
    rfl
  · rintro ⟨-, m, n, -, vectors⟩
    cases vectors

/-- The negation of a number is a number. -/
lemma expected_neg (next : Serial) (h : List.Forall₂ HasShape values shapes)
    (kinds : shapes.map Shape.kind = [.number]) :
    Expected name shapes ((⟨name, signature, neg⟩ :
      Registry.Entry (NumericRule υ)).answer values next).1 := by
  obtain ⟨a, s, rfl, rfl, ha, hs⟩ := exists_single h kinds
  obtain rfl := Shape.eq_number hs
  obtain ⟨type, x, hx⟩ := ha.exists_toFloat?
  have computed : Lift.unary (Lift.onNumber "-" (-·)) [a] = .ok (.number (-x)) := by
    simp only [Lift.unary, Lift.onNumber, hx]
  refine .of_ok (number.tag (.number (-x))) ?_ ⟨_, hasShape_number _⟩ ?_
  · rw [neg, answer_of_type (resolve_typeOfFirst a _ next), computed, type]
    rfl
  · rintro ⟨-, m, n, -, vectors⟩
    cases vectors

/-- Operators that work on two vectors item by item fail for different lengths only.

**Proof sketch.** The numbers of both vectors are there.  If they are as many, they make pairs, and
what is made of the pairs fits the type of the result; otherwise the operands are refused. -/
lemma expected_itemwise (next : Serial) (h : List.Forall₂ HasShape values shapes)
    (kinds : shapes.map Shape.kind = [.vector, .vector]) (itemwise : name ∈ ["+", "-", "*"])
    (typeOf : Tagged (NumericRule υ) → TypeNode (NumericRule υ))
    {combine : List (Float × Float) → Payload}
    (type : ∀ a b, (resultType.resolve [a, b]).runFrom next = (.ok (typeOf a), next))
    (computed : ∀ a b, compute [a, b] =
      (numberPairs operation a.payload b.payload).map combine)
    (fits : ∀ a n pairs, HasShape a (.vector n) → pairs.length = n.toNat →
      WellFormed ((typeOf a).tag (combine pairs))) :
    Expected name shapes ((⟨name, signature, ⟨serial, resultType, compute⟩⟩ :
      Registry.Entry (NumericRule υ)).answer values next).1 := by
  obtain ⟨a, b, s, t, rfl, rfl, ha, hb, hs, ht⟩ := exists_pair h kinds
  obtain ⟨m, rfl⟩ := Shape.exists_eq_vector hs
  obtain ⟨n, rfl⟩ := Shape.exists_eq_vector ht
  obtain ⟨xs, first, xs_length⟩ := ha.exists_numbers operation
  obtain ⟨ys, second, ys_length⟩ := hb.exists_numbers operation
  rw [answer_of_type (type a b), computed]
  constructor
  · rintro ⟨-, m', n', differ, vectors⟩
    obtain ⟨rfl, rfl⟩ : m = m' ∧ n = n' := by simpa using vectors
    have lengths : xs.length ≠ ys.length := by
      rw [xs_length, ys_length]
      exact fun same => differ (UInt64.toNat_inj.mp same)
    rw [numberPairs_of_length_ne first second lengths]
    exact ⟨_, _, rfl⟩
  · intro matched
    have same : m = n := by
      by_contra differ
      exact matched ⟨itemwise, m, n, differ, rfl⟩
    have lengths : xs.length = ys.length := by rw [xs_length, ys_length, same]
    rw [numberPairs_of_length_eq first second lengths]
    refine ⟨_, rfl, fits a m _ ha ?_⟩
    rw [List.length_zip, ← lengths, Nat.min_self, xs_length]

/-- A vector of a length scaled by a number has as many numbers. -/
lemma exists_scale {vector factor : Tagged (NumericRule υ)} {length : UInt64}
    (hv : HasShape vector (.vector length)) (hf : HasShape factor .number) (operation : String) :
    ∃ xs : List Float, scale operation vector.payload factor.payload =
      .ok (.list (xs.map .number)) ∧ xs.length = length.toNat := by
  obtain ⟨xs, found, count⟩ := hv.exists_numbers operation
  obtain ⟨-, k, coerced⟩ := hf.exists_toFloat?
  refine ⟨xs.map (· * k), ?_, by rw [List.length_map, count]⟩
  simp only [scale, coerced, found, Except.map, List.map_map]
  rfl

/-- A vector scaled by the second operand is a vector of the same length. -/
lemma expected_scaleFirst (next : Serial) (h : List.Forall₂ HasShape values shapes)
    (kinds : shapes.map Shape.kind = [.vector, .number]) :
    Expected name shapes ((⟨name, signature, ⟨serial, .computed Lift.typeOfFirst, scaleFirst⟩⟩ :
      Registry.Entry (NumericRule υ)).answer values next).1 := by
  obtain ⟨a, b, s, t, rfl, rfl, ha, hb, hs, ht⟩ := exists_pair h kinds
  obtain ⟨n, rfl⟩ := Shape.exists_eq_vector hs
  obtain rfl := Shape.eq_number ht
  obtain ⟨xs, scaled, count⟩ := exists_scale ha hb "*"
  refine .of_ok (a.type.tag (.list (xs.map .number))) ?_ ⟨_, ha.withNumbers count⟩ ?_
  · rw [answer_of_type (resolve_typeOfFirst a _ next), scaleFirst, scaled]
    rfl
  · rintro ⟨-, m, n, -, vectors⟩
    cases vectors

/-- A vector scaled by the first operand is a vector of the same length. -/
lemma expected_scaleSecond (next : Serial) (h : List.Forall₂ HasShape values shapes)
    (kinds : shapes.map Shape.kind = [.number, .vector]) :
    Expected name shapes ((⟨name, signature, ⟨serial, .computed Lift.typeOfSecond, scaleSecond⟩⟩ :
      Registry.Entry (NumericRule υ)).answer values next).1 := by
  obtain ⟨a, b, s, t, rfl, rfl, ha, hb, hs, ht⟩ := exists_pair h kinds
  obtain rfl := Shape.eq_number hs
  obtain ⟨n, rfl⟩ := Shape.exists_eq_vector ht
  obtain ⟨xs, scaled, count⟩ := exists_scale hb ha "*"
  refine .of_ok (b.type.tag (.list (xs.map .number))) ?_ ⟨_, hb.withNumbers count⟩ ?_
  · rw [answer_of_type (resolve_typeOfSecond a b _ next), scaleSecond, scaled]
    rfl
  · rintro ⟨-, m, n, -, vectors⟩
    cases vectors

/-- Items of two vectors combined one by one make a vector of the same length. -/
lemma expected_pointwise (function : Float → Float → Float) (next : Serial)
    (h : List.Forall₂ HasShape values shapes)
    (kinds : shapes.map Shape.kind = [.vector, .vector]) (itemwise : name ∈ ["+", "-", "*"]) :
    Expected name shapes ((⟨name, signature, ⟨serial, .computed Lift.typeOfFirst,
      Lift.binary (pointwise operation function)⟩⟩ :
      Registry.Entry (NumericRule υ)).answer values next).1 := by
  refine expected_itemwise next h kinds itemwise (·.type)
    (fun a b => resolve_typeOfFirst a [b] next) (fun a b => rfl) fun a n pairs ha count => ?_
  have as_many : (pairs.map fun pair => function pair.1 pair.2).length = n.toNat := by
    rw [List.length_map, count]
  have numbers := ha.withNumbers as_many
  rw [List.map_map] at numbers
  exact ⟨_, numbers⟩

/-- The product of two vectors is a number. -/
lemma expected_dotProduct (next : Serial) (h : List.Forall₂ HasShape values shapes)
    (kinds : shapes.map Shape.kind = [.vector, .vector]) (itemwise : name ∈ ["+", "-", "*"]) :
    Expected name shapes ((⟨name, signature, ⟨serial, .constant number,
      Lift.binary (dotProduct operation)⟩⟩ :
      Registry.Entry (NumericRule υ)).answer values next).1 :=
  expected_itemwise next h kinds itemwise (fun _ => number)
    (fun _ _ => Minting.runFrom_pure number next) (fun _ _ => rfl)
    fun _ _ _ _ _ => ⟨_, hasShape_number _⟩

/-- Every entry of the standard registry, on operands of the kinds that it takes, results in what
is expected. -/
theorem expected_of_mem_zip {first : Serial} {kinds : List Kind}
    {entry : Registry.Entry (NumericRule υ)}
    (listed : ((name, kinds), entry) ∈ operandKinds.zip (standardEntries first))
    (h : List.Forall₂ HasShape values shapes) (taken : shapes.map Shape.kind = kinds)
    (next : Serial) : Expected name shapes (entry.answer values next).1 := by
  simp only [operandKinds, standardEntries, List.zip_cons_cons, List.zip_nil_right, List.mem_cons,
    List.not_mem_nil, or_false, Prod.mk.injEq] at listed
  obtain ⟨⟨rfl, rfl⟩, rfl⟩ | ⟨⟨rfl, rfl⟩, rfl⟩ | ⟨⟨rfl, rfl⟩, rfl⟩ | ⟨⟨rfl, rfl⟩, rfl⟩ |
    ⟨⟨rfl, rfl⟩, rfl⟩ | ⟨⟨rfl, rfl⟩, rfl⟩ | ⟨⟨rfl, rfl⟩, rfl⟩ | ⟨⟨rfl, rfl⟩, rfl⟩ |
    ⟨⟨rfl, rfl⟩, rfl⟩ | ⟨⟨rfl, rfl⟩, rfl⟩ | ⟨⟨rfl, rfl⟩, rfl⟩ | ⟨⟨rfl, rfl⟩, rfl⟩ := listed
  · exact expected_binaryOperator _ next h taken
  · exact expected_binaryOperator _ next h taken
  · exact expected_binaryOperator _ next h taken
  · exact expected_binaryOperator _ next h taken
  · exact expected_binaryOperator _ next h taken
  · exact expected_binaryOperator _ next h taken
  · exact expected_neg next h taken
  · exact expected_pointwise _ next h taken (by decide)
  · exact expected_pointwise _ next h taken (by decide)
  · exact expected_dotProduct next h taken (by decide)
  · exact expected_scaleFirst next h taken
  · exact expected_scaleSecond next h taken

end Shapes

end MultiDispatch.Numeric
