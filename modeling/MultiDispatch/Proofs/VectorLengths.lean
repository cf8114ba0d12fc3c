import MultiDispatch.Proofs.Operands
import MultiDispatch.Proofs.SpecializedParams

set_option autoImplicit false
set_option relaxedAutoImplicit false

/-!
# Reported lengths of vectors

The length of a type is reported if the type implements that of vectors.  It is read off the first
node of the lineage that has a template and a single integer as its parameter.  This node need not
specialize vectors: its template may be another generic type, and an integer that is negative is
read as a large number.  Where every such node specializes vectors by an integer that is not
negative, the length reported is that of a specialization of vectors in the lineage.

## Main definitions

* `MultiDispatch.Numeric.SpecializesVector` — a node specializes vectors by a length.
* `MultiDispatch.Numeric.IsVectorOf` — a node describes the type of vectors of a length.
* `MultiDispatch.Numeric.mixedType`, `MultiDispatch.Numeric.negativeType` — a type with a face of
  another generic type, and a specialization by a negative integer.

## Main results

* `MultiDispatch.Numeric.isVectorOf_iff` — the type of vectors of a length is described by the
  specializations without a name.
* `MultiDispatch.Numeric.vectorLength?_eq_some_iff` — which length is reported.
* `MultiDispatch.Numeric.vectorLength?_sound` — the length reported is right where all lengths
  carried are those of vectors.
* `MultiDispatch.Numeric.vectorLength?_not_of_vectors` — otherwise it may be that of no vectors.
-/

namespace MultiDispatch.Numeric

variable {υ : Role → Type} [∀ role, DecidableEq (υ role)]

/-! ## Lengths as signed integers -/

omit [∀ role, DecidableEq (υ role)] in
/-- A length counts as nonnegative exactly if it is below `2 ^ 63`. -/
lemma nonneg_toInt64_iff (length : UInt64) : 0 ≤ length.toInt64 ↔ length.toNat < 2 ^ 63 := by
  have signed : length.toInt64.toInt = length.toBitVec.toInt := rfl
  have unsigned : length.toNat = length.toBitVec.toNat := rfl
  rw [Int64.le_iff_toInt_le, Int64.toInt_zero, signed, unsigned, BitVec.toInt_eq_toNat_cond]
  have bound := length.toBitVec.isLt
  split <;> omega

omit [∀ role, DecidableEq (υ role)] in
/-- A node carries a length exactly if it has a template and the length, as a signed integer, is
its only parameter. -/
lemma carriedLength?_eq_some_iff {node : TypeNode (NumericRule υ)} {length : UInt64} :
    carriedLength? node = some length ↔
      node.template.isSome = true ∧ node.params = [.integer length.toInt64] := by
  rw [carriedLength?]
  split
  · next n params =>
    rw [params]
    by_cases specialized : node.template.isSome = true
    · simp only [specialized, if_true, Option.some.injEq, List.cons.injEq, Param.integer.injEq,
        and_true, true_and]
      exact ⟨fun h => h ▸ (Int64.toInt64_toUInt64 n).symm,
        fun h => h ▸ UInt64.toUInt64_toInt64 length⟩
    · simp [specialized]
  · next other =>
    simp only [reduceCtorEq, false_iff, not_and]
    exact fun _ params => other _ params

/-! ## Types of vectors -/

/-- Parameters agree with a single integer exactly if this is what they are. -/
lemma sameParams_integer_iff {params : List (Param (NumericRule υ))} {n : Int64} :
    Param.sameParams params [.integer n] = true ↔ params = [.integer n] := by
  match params with
  | [.integer m] => simp [Param.sameParams_integer]
  | [] | _ :: _ :: _ => simp [Param.sameParams]
  | [.type _] | [.string _] | [.boolean _] | [.list _] =>
    simp [Param.sameParams, Param.agrees, Param.sameScalar]

/-- A node specializes vectors by a length: its template describes the type of vectors, its only
parameter is the length, and this is one that a signed integer can be. -/
structure SpecializesVector (node : TypeNode (NumericRule υ)) (length : UInt64) : Prop where
  origin : node.template.any (·.sameType vector) = true
  params_eq : node.params = [.integer length.toInt64]
  bound : length.toNat < 2 ^ 63

/-- Whether a node describes the type of vectors of a length. -/
def IsVectorOf [Interprets υ (NumericRule υ)] (node : TypeNode (NumericRule υ))
    (length : UInt64) : Prop :=
  ∃ next made after, (vectorOfLength length).runFrom next = (.ok made, after) ∧
    node.sameType made = true

/-- A node describes the same type as what is built for a length exactly if its template describes
the type of vectors, it has no name and the length is its only parameter. -/
lemma sameType_lengthNode_iff {node : TypeNode (NumericRule υ)} {length : Int64}
    {serial : Serial} :
    node.sameType ((lengthDraft vector length).toNode serial) = true ↔
      node.template.any (·.sameType vector) = true ∧ node.name = none ∧
        node.params = [.integer length] := by
  rw [TypeNode.sameType_iff, ← sameParams_integer_iff]
  refine and_congr_left' ?_
  cases template : node.template <;>
    simp [TypeNode.sameTemplates, lengthDraft, Draft.specialization, Draft.toNode]

/-- A node describes the type of vectors of a length exactly if it specializes vectors by this
length and has no name. -/
theorem isVectorOf_iff [Interprets υ (NumericRule υ)] {node : TypeNode (NumericRule υ)}
    {length : UInt64} :
    IsVectorOf node length ↔ node.name = none ∧ SpecializesVector node length := by
  constructor
  · rintro ⟨next, made, after, builds, same⟩
    rw [runFrom_vectorOfLength] at builds
    split at builds
    · next counts =>
      obtain ⟨⟨⟩, -⟩ := Prod.mk.inj builds
      obtain ⟨origin, unnamed, params⟩ := sameType_lengthNode_iff.mp same
      exact ⟨unnamed, origin, params, (nonneg_toInt64_iff length).mp counts⟩
    · cases builds
  · rintro ⟨unnamed, origin, params, bound⟩
    -- the serial number plays no part in what is described
    refine ⟨0, (lengthDraft vector length.toInt64).toNode 0, 1, ?_,
      sameType_lengthNode_iff.mpr ⟨origin, unnamed, params⟩⟩
    rw [runFrom_vectorOfLength, if_pos ((nonneg_toInt64_iff length).mpr bound)]

/-! ## The length reported -/

/-- A length is reported exactly if the node implements the type of vectors and the first node of
its lineage that carries a length carries this one. -/
theorem vectorLength?_eq_some_iff {node : TypeNode (NumericRule υ)} {length : UInt64} :
    vectorLength? node = some length ↔ node.implements vector = true ∧
      ∃ before carrier after, node.lineage = before ++ carrier :: after ∧
        carriedLength? carrier = some length ∧
        ∀ other ∈ before, carriedLength? other = none := by
  rw [vectorLength?, ← List.findSome?_eq_some_iff]
  by_cases implements : node.implements vector = true <;> simp [implements]

/-- **The length reported is the one carried first.**  A length is reported exactly if the node
implements the type of vectors and the first node of its lineage that carries a length carries
this one.  The type of vectors of a length is described by the specializations of vectors by this
length that have no name.  If every node in the lineage that carries a length specializes vectors
by it, then a length that is reported is below `2 ^ 63`, and faces lead to a specialization of
vectors by this length; to the type of vectors of this length, if none of them has a name. -/
theorem vectorLength?_sound [Interprets υ (NumericRule υ)] (node : TypeNode (NumericRule υ))
    (length : UInt64) :
    (vectorLength? node = some length ↔ node.implements vector = true ∧
      ∃ before carrier after, node.lineage = before ++ carrier :: after ∧
        carriedLength? carrier = some length ∧
        ∀ other ∈ before, carriedLength? other = none) ∧
    (∀ current : TypeNode (NumericRule υ), IsVectorOf current length ↔
      current.name = none ∧ SpecializesVector current length) ∧
    ((∀ carrier carried, node.Reaches carrier → carriedLength? carrier = some carried →
        SpecializesVector carrier carried) →
      vectorLength? node = some length →
      length.toNat < 2 ^ 63 ∧
      (∃ current, node.Reaches current ∧ SpecializesVector current length) ∧
      ((∀ carrier carried, node.Reaches carrier → carriedLength? carrier = some carried →
          carrier.name = none) →
        ∃ current, node.Reaches current ∧ IsVectorOf current length)) := by
  refine ⟨vectorLength?_eq_some_iff, fun current => isVectorOf_iff, fun vectors reported => ?_⟩
  obtain ⟨-, before, carrier, after, split, carries, -⟩ := vectorLength?_eq_some_iff.mp reported
  -- the first carrier of the lineage is reached, whatever node made the type implement vectors
  have reached : node.Reaches carrier := by
    rw [← TypeNode.mem_lineage, split]
    exact List.mem_append_right before List.mem_cons_self
  have specializes := vectors carrier length reached carries
  exact ⟨specializes.bound, ⟨carrier, reached, specializes⟩, fun unnamed =>
    ⟨carrier, reached, isVectorOf_iff.mpr ⟨unnamed carrier length reached carries, specializes⟩⟩⟩

/-! ### A point in space -/

/-- An abstract type without rules. -/
def plainNode (serial : Serial) (name : Option String)
    (template : Option (TypeNode (NumericRule fun _ => Empty)))
    (params : List (Param (NumericRule fun _ => Empty)))
    (faces : List (TypeNode (NumericRule fun _ => Empty))) :
    TypeNode (NumericRule fun _ => Empty) :=
  ⟨serial, name, template, params, faces, { isAbstract := true }⟩

/-- The type of vectors of length three. -/
def vectorOfThree : TypeNode (NumericRule fun _ => Empty) := (lengthDraft vector 3).toNode 2

/-- A type that supports the interface of vectors of length three. -/
def pointType : TypeNode (NumericRule fun _ => Empty) :=
  plainNode 3 (some "Point") none [] [vectorOfThree]

/-- The lineage of the point goes from vectors of length three to vectors. -/
lemma lineage_pointType : pointType.lineage = [pointType, vectorOfThree, vector] := by
  simp [TypeNode.lineage, TypeNode.walk, TypeNode.unseen, pointType, plainNode, vectorOfThree,
    lengthDraft, Draft.specialization, vector, vectorDraft, Draft.toNode]

/-- In the lineage of the point only the type of vectors of length three carries a length. -/
lemma eq_of_carries_pointType {carrier : TypeNode (NumericRule fun _ => Empty)} {carried : UInt64}
    (reached : pointType.Reaches carrier) (carries : carriedLength? carrier = some carried) :
    carrier = vectorOfThree ∧ carried = 3 := by
  rw [← TypeNode.mem_lineage, lineage_pointType] at reached
  simp only [List.mem_cons, List.not_mem_nil, or_false] at reached
  rcases reached with rfl | rfl | rfl
  · cases carries
  · exact ⟨rfl, (Option.some.inj carries).symm⟩
  · cases carries

/-- Faces lead from the point, whose reported length is three, to vectors of this length. -/
theorem vectorLength?_sound_pointType :
    (∀ carrier carried, pointType.Reaches carrier → carriedLength? carrier = some carried →
      SpecializesVector carrier carried) ∧
    vectorLength? pointType = some 3 ∧ (3 : UInt64).toNat < 2 ^ 63 ∧
    ∃ current, pointType.Reaches current ∧ IsVectorOf current 3 := by
  have vectors : ∀ carrier carried, pointType.Reaches carrier →
      carriedLength? carrier = some carried → SpecializesVector carrier carried := by
    intro carrier carried reached carries
    obtain ⟨rfl, rfl⟩ := eq_of_carries_pointType reached carries
    exact ⟨TypeNode.sameType_self vector, rfl, by decide⟩
  have reaches : pointType.Reaches vector := by
    rw [← TypeNode.mem_lineage, lineage_pointType]
    simp
  obtain ⟨reported_iff, -, sound⟩ := vectorLength?_sound pointType 3
  have reported : vectorLength? pointType = some 3 :=
    reported_iff.mpr ⟨reaches.implements, [pointType], vectorOfThree, [vector], lineage_pointType,
      rfl, by simp only [List.mem_singleton, forall_eq]; rfl⟩
  obtain ⟨bound, -, of_unnamed⟩ := sound vectors reported
  refine ⟨vectors, reported, bound, of_unnamed fun carrier carried reached carries => ?_⟩
  obtain ⟨rfl, -⟩ := eq_of_carries_pointType reached carries
  rfl

/-! ### Lengths that are not those of vectors -/

/-- A type of boxes. -/
def boxType : TypeNode (NumericRule fun _ => Empty) := plainNode 4 (some "Box") none [] []

/-- The specialization of boxes by five. -/
def boxOfFive : TypeNode (NumericRule fun _ => Empty) :=
  plainNode 5 none (some boxType) [.integer 5] [boxType]

/-- A type that supports the interface of boxes of five and that of vectors. -/
def mixedType : TypeNode (NumericRule fun _ => Empty) :=
  plainNode 6 (some "Mixed") none [] [boxOfFive, vector]

/-- The specialization of vectors by a negative integer. -/
def negativeType : TypeNode (NumericRule fun _ => Empty) :=
  plainNode 7 none (some vector) [.integer (-1)] [vector]

/-- The lineage of the mixed type has the box in front of the type of vectors. -/
lemma lineage_mixedType : mixedType.lineage = [mixedType, boxOfFive, vector, boxType] := by
  simp [TypeNode.lineage, TypeNode.walk, TypeNode.unseen, mixedType, boxOfFive, boxType, plainNode,
    vector, vectorDraft, Draft.toNode]

/-- The lineage of the negative type has the type of vectors behind it. -/
lemma lineage_negativeType : negativeType.lineage = [negativeType, vector] := by
  simp [TypeNode.lineage, TypeNode.walk, TypeNode.unseen, negativeType, plainNode, vector,
    vectorDraft, Draft.toNode]

/-- No node in the lineage of the mixed type specializes vectors. -/
lemma not_specializesVector_mixedType {current : TypeNode (NumericRule fun _ => Empty)}
    (reached : mixedType.Reaches current) (length : UInt64) :
    ¬ SpecializesVector current length := by
  rw [← TypeNode.mem_lineage, lineage_mixedType] at reached
  simp only [List.mem_cons, List.not_mem_nil, or_false] at reached
  intro specializes
  have origin := specializes.origin
  rcases reached with rfl | rfl | rfl | rfl
  · cases origin
  · have names := (TypeNode.sameType_iff.mp (origin : boxType.sameType vector = true)).2.1
    exact absurd names (by decide)
  · cases origin
  · cases origin

/-- **The length reported may be that of no vectors.**  The mixed type is reported to have length
five, the parameter of its box; but nothing that faces lead to specializes vectors, or is the type
of vectors of a length.  The specialization by a negative integer is reported to have a length that
no vectors have. -/
theorem vectorLength?_not_of_vectors :
    vectorLength? mixedType = some 5 ∧
    (∀ current, mixedType.Reaches current → ∀ length,
      ¬ SpecializesVector current length ∧ ¬ IsVectorOf current length) ∧
    vectorLength? negativeType = some 18446744073709551615 ∧
    ¬ (18446744073709551615 : UInt64).toNat < 2 ^ 63 := by
  refine ⟨vectorLength?_eq_some_iff.mpr ⟨?_, [mixedType], boxOfFive, [vector, boxType],
    lineage_mixedType, rfl, by simp only [List.mem_singleton, forall_eq]; rfl⟩,
    fun current reached length => ?_,
    vectorLength?_eq_some_iff.mpr ⟨?_, [], negativeType, [vector], lineage_negativeType, rfl,
    by simp⟩, by decide⟩
  · have face : vector ∈ mixedType.faces := List.mem_cons_of_mem _ List.mem_cons_self
    exact TypeNode.Reaches.implements (Relation.ReflTransGen.single face)
  · have never := not_specializesVector_mixedType reached length
    exact ⟨never, fun isVector => never (isVectorOf_iff.mp isVector).2⟩
  · have face : vector ∈ negativeType.faces := List.mem_cons_self
    exact TypeNode.Reaches.implements (Relation.ReflTransGen.single face)

end MultiDispatch.Numeric
