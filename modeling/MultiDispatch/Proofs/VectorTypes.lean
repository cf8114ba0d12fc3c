import MultiDispatch.Proofs.Exchanging
import MultiDispatch.Proofs.VectorLengths

set_option autoImplicit false
set_option relaxedAutoImplicit false

/-!
# Types of vectors of a length

The length of vectors goes into their type as a signed integer and comes back as an unsigned one.
On the way it passes the test for a sign, the rule that keeps so many items of the data, and the
search for the length in the lineage; all of them agree for the lengths below `2 ^ 63`, and longer
ones are refused.  Every build gives a new node, but two nodes for one length are twins, and no
dispatch table tells them apart.

## Main definitions

* `MultiDispatch.Numeric.MadeForLength` — a node was built for vectors of a length.

## Main results

* `MultiDispatch.Numeric.exists_specialize_vector_iff` — what vectors are specialized by.
* `MultiDispatch.Numeric.madeForLength_iff` — the nodes built for a length.
* `MultiDispatch.Numeric.MadeForLength.twins` — two nodes for one length are twins.
* `MultiDispatch.Numeric.vectorOfLength_roundTrip` — lengths survive, and nodes for one length can
  be exchanged.
-/

namespace MultiDispatch.Numeric

variable {υ : Role → Type} [∀ role, DecidableEq (υ role)] [Interprets υ (NumericRule υ)]

/-! ## What vectors are specialized by -/

/-- Vectors are specialized by an integer that is not negative, and a negative one is refused. -/
lemma runFrom_specialize_vector (length : Int64) (next : Serial) :
    ((vector : TypeNode (NumericRule υ)).specialize [.integer length]).runFrom next =
      if 0 ≤ length then (.ok ((lengthDraft vector length).toNode next), next + 1)
      else (.error (.configuration .unspecified), next) := by
  have made := runFrom_vectorOfLength (υ := υ) length.toUInt64 next
  rwa [vectorOfLength, Int64.toInt64_toUInt64] at made

/-- Vectors are not specialized by anything but a single integer. -/
lemma runFrom_specialize_vector_of_ne {params : List (Param (NumericRule υ))}
    (other : ∀ length, params ≠ [.integer length]) (next : Serial) :
    ((vector : TypeNode (NumericRule υ)).specialize params).runFrom next =
      (.error (.configuration .unspecified), next) := by
  have has : (vector : TypeNode (NumericRule υ)).interface.specialize = some .ofLength := rfl
  have fails : (Interprets.specialize (.ofLength : NumericRule υ .specialize)
      (vector : TypeNode (NumericRule υ)) params).runFrom next =
      (.error (.configuration .unspecified), next) := by
    change (specializeByLength vector params).runFrom next = _
    rw [specializeByLength.eq_def]
    split
    · next length => exact absurd rfl (other length)
    · rfl
  rw [TypeNode.runFrom_specialize has, fails]

/-- Vectors are specialized by a single integer that is not negative, and by nothing else. -/
lemma exists_specialize_vector_iff {params : List (Param (NumericRule υ))} {next : Serial} :
    (∃ node after, ((vector : TypeNode (NumericRule υ)).specialize params).runFrom next =
        (.ok node, after)) ↔
      ∃ length : Int64, params = [.integer length] ∧ 0 ≤ length := by
  by_cases single : ∃ length : Int64, params = [.integer length]
  · obtain ⟨length, rfl⟩ := single
    rw [runFrom_specialize_vector]
    by_cases counts : 0 ≤ length <;> simp [counts]
  · have other : ∀ length : Int64, params ≠ [.integer length] := not_exists.mp single
    rw [runFrom_specialize_vector_of_ne other]
    simp [other]

/-- By anything else vectors are not specialized, for lack of a specification. -/
lemma specialize_vector_fails {params : List (Param (NumericRule υ))}
    (other : ¬ ∃ length : Int64, params = [.integer length] ∧ 0 ≤ length) (next : Serial) :
    ((vector : TypeNode (NumericRule υ)).specialize params).runFrom next =
      (.error (.configuration .unspecified), next) := by
  by_cases single : ∃ length : Int64, params = [.integer length]
  · obtain ⟨length, rfl⟩ := single
    have negative : ¬ 0 ≤ length := fun counts => other ⟨length, rfl, counts⟩
    rw [runFrom_specialize_vector, if_neg negative]
  · exact runFrom_specialize_vector_of_ne (not_exists.mp single) next

/-! ## Nodes for a length -/

/-- Whether a node was built for vectors of a length, at any time. -/
def MadeForLength (node : TypeNode (NumericRule υ)) (length : UInt64) : Prop :=
  ∃ next after, (vectorOfLength length).runFrom next = (.ok node, after)

/-- Vectors of a length are built exactly if the length is below `2 ^ 63`. -/
lemma exists_vectorOfLength_iff {length : UInt64} {next : Serial} :
    (∃ node after, (vectorOfLength length : Minting TypeFault (TypeNode (NumericRule υ))).runFrom
        next = (.ok node, after)) ↔ length.toNat < 2 ^ 63 := by
  rw [runFrom_vectorOfLength, ← nonneg_toInt64_iff]
  by_cases counts : 0 ≤ length.toInt64 <;> simp [counts]

/-- A node was built for a length exactly if this is below `2 ^ 63` and the node is made from the
draft for it, with some serial number. -/
lemma madeForLength_iff {node : TypeNode (NumericRule υ)} {length : UInt64} :
    MadeForLength node length ↔ length.toNat < 2 ^ 63 ∧
      ∃ serial, node = (lengthDraft vector length.toInt64).toNode serial := by
  simp only [MadeForLength, runFrom_vectorOfLength, ← nonneg_toInt64_iff]
  by_cases counts : 0 ≤ length.toInt64 <;> simp [counts, eq_comm]

omit [Interprets υ (NumericRule υ)] in
/-- The lineage of the vectors of a length is the node and the type of vectors. -/
lemma lineage_lengthNode (length : Int64) (serial : Serial) :
    ((lengthDraft (vector : TypeNode (NumericRule υ)) length).toNode serial).lineage =
      [(lengthDraft vector length).toNode serial, vector] := by
  simp [TypeNode.lineage, TypeNode.walk, TypeNode.unseen, lengthDraft, Draft.specialization, vector,
    vectorDraft, Draft.toNode]

namespace MadeForLength

variable {a b node : TypeNode (NumericRule υ)} {length m n : UInt64}

/-- The lineage of a node for a length is the node and the type of vectors. -/
lemma lineage_eq (made : MadeForLength node length) : node.lineage = [node, vector] := by
  obtain ⟨-, serial, rfl⟩ := madeForLength_iff.mp made
  exact lineage_lengthNode _ serial

/-- The length reported for a node is the one that it was built for. -/
lemma vectorLength?_eq (made : MadeForLength node length) : vectorLength? node = some length := by
  have lineage := made.lineage_eq
  have reached : node.Reaches vector := by
    rw [← TypeNode.mem_lineage, lineage]
    exact List.mem_cons_of_mem _ (List.mem_singleton_self vector)
  obtain ⟨-, serial, rfl⟩ := madeForLength_iff.mp made
  exact vectorLength?_eq_some_iff.mpr ⟨reached.implements, [], _, [vector], lineage,
    carriedLength?_eq_some_iff.mpr ⟨rfl, rfl⟩, by simp⟩

/-- From data a node for a length makes the list of the first so many items. -/
lemma ofData_eq (made : MadeForLength node length) (data : List Payload) :
    node.ofData data = .ok (node.tag (.list (data.take (min length.toNat data.length)))) := by
  obtain ⟨-, serial, rfl⟩ := madeForLength_iff.mp made
  have create : ((lengthDraft (vector : TypeNode (NumericRule υ)) length.toInt64).toNode
      serial).create data = .ok (.list (data.take length.toInt64.toUInt64.toNat)) := rfl
  rw [TypeNode.ofData, create, UInt64.toUInt64_toInt64, List.take_eq_take_min]
  rfl

/-- Nodes for two lengths describe the same type exactly if the lengths are equal. -/
lemma sameType_iff (ha : MadeForLength a m) (hb : MadeForLength b n) :
    a.sameType b = true ↔ m = n := by
  obtain ⟨-, serial, rfl⟩ := madeForLength_iff.mp ha
  obtain ⟨-, serial', rfl⟩ := madeForLength_iff.mp hb
  have origin : ((lengthDraft (vector : TypeNode (NumericRule υ)) m.toInt64).toNode
      serial).template.any (·.sameType vector) = true := TypeNode.sameType_self vector
  have params : ((lengthDraft (vector : TypeNode (NumericRule υ)) m.toInt64).toNode
      serial).params = [.integer m.toInt64] := rfl
  rw [sameType_lengthNode_iff, params]
  simp only [origin, true_and, List.cons.injEq, Param.integer.injEq, and_true]
  constructor
  · rintro ⟨-, same⟩
    rw [← UInt64.toUInt64_toInt64 m, same, UInt64.toUInt64_toInt64]
  · rintro rfl
    exact ⟨rfl, rfl⟩

/-- Two nodes for one length are twins. -/
lemma twins (ha : MadeForLength a length) (hb : MadeForLength b length) : a.Twins b where
  sameType_eq := (ha.sameType_iff hb).mpr rfl
  faces_eq := by
    obtain ⟨-, serial, rfl⟩ := madeForLength_iff.mp ha
    obtain ⟨-, serial', rfl⟩ := madeForLength_iff.mp hb
    rfl

end MadeForLength

/-- **Lengths of vectors survive, and nodes for one length can be exchanged.**  Vectors are
specialized by a single integer that is not negative, and by anything else they are not, for lack
of a specification.  Vectors of a length are built exactly if it is below `2 ^ 63`.  The length
reported for what is built is the one it was built for; its lineage is itself and the type of
vectors; and from data it makes the list of the first so many items.  Nodes for two lengths
describe the same type exactly if the lengths are equal; and then, wherever they take each other's
place in the signatures of a table and in the arguments, what is resolved stays the same. -/
theorem vectorOfLength_roundTrip :
    (∀ (params : List (Param (NumericRule υ))) next,
      ((∃ node after, ((vector : TypeNode (NumericRule υ)).specialize params).runFrom next =
          (.ok node, after)) ↔ ∃ length : Int64, params = [.integer length] ∧ 0 ≤ length) ∧
      ((¬ ∃ length : Int64, params = [.integer length] ∧ 0 ≤ length) →
        ((vector : TypeNode (NumericRule υ)).specialize params).runFrom next =
          (.error (.configuration .unspecified), next))) ∧
    (∀ length next,
      (∃ node after, (vectorOfLength length : Minting TypeFault (TypeNode (NumericRule υ))).runFrom
        next = (.ok node, after)) ↔ length.toNat < 2 ^ 63) ∧
    (∀ (node : TypeNode (NumericRule υ)) length, MadeForLength node length →
      vectorLength? node = some length ∧ node.lineage = [node, vector] ∧
      ∀ data, node.ofData data =
        .ok (node.tag (.list (data.take (min length.toNat data.length))))) ∧
    (∀ (a b : TypeNode (NumericRule υ)) m n, MadeForLength a m → MadeForLength b n →
      (a.sameType b = true ↔ m = n) ∧
      (m = n → ∀ first second, List.Forall₂ (Overload.Exchanged a b) first second →
        (∀ arguments arguments', List.Forall₂ (Param.Exchanged a b) arguments arguments' →
          (DispatchTable.ofOverloads first).resolve arguments =
            (DispatchTable.ofOverloads second).resolve arguments') ∧
        (∀ types types', List.Forall₂ (TypeNode.Exchanged a b) types types' →
          (DispatchTable.ofOverloads first).get types =
            (DispatchTable.ofOverloads second).get types'))) := by
  refine ⟨fun params next => ⟨exists_specialize_vector_iff, fun other =>
      specialize_vector_fails other next⟩, fun _ _ => exists_vectorOfLength_iff,
    fun node length made => ⟨made.vectorLength?_eq, made.lineage_eq, made.ofData_eq⟩,
    fun a b m n ha hb => ⟨ha.sameType_iff hb, ?_⟩⟩
  rintro rfl first second in_history
  have twins := ha.twins hb
  refine ⟨fun arguments arguments' => DispatchTable.resolve_exchanged twins in_history,
    fun types types' in_types => ?_⟩
  have in_arguments : List.Forall₂ (Param.Exchanged a b) (types.map .type) (types'.map .type) := by
    rw [List.forall₂_map_left_iff, List.forall₂_map_right_iff]
    exact in_types.imp fun _ _ => .type
  exact DispatchTable.resolve_exchanged twins in_history in_arguments

/-! ### Vectors of three, built twice -/

/-- The type of vectors of length three, built with a serial number. -/
def threeType (serial : Serial) : TypeNode (NumericRule fun _ => Empty) :=
  (lengthDraft vector 3).toNode serial

/-- An overload that takes the number one or a type. -/
def oneOrFace (face : TypeNode (NumericRule fun _ => Empty)) :
    Overload (NumericRule fun _ => Empty) :=
  ⟨⟨[.list [.integer 1, .type face]]⟩, ⟨9, .constant number, fun _ => .ok .unit⟩⟩

/-- Whenever it is built, the type of vectors of three is made for length three. -/
lemma madeForLength_threeType (serial : Serial) : MadeForLength (threeType serial) 3 :=
  madeForLength_iff.mpr ⟨by decide, serial, rfl⟩

/-- Vectors are not specialized by minus one.  The first type of vectors of three takes the place
of the second among the alternatives of a slot, which the second still satisfies. -/
theorem vectorOfLength_roundTrip_threeType :
    (¬ ∃ length : Int64, [Param.integer (-1)] =
      ([.integer length] : List (Param (NumericRule fun _ => Empty))) ∧ 0 ≤ length) ∧
    ((vector : TypeNode (NumericRule fun _ => Empty)).specialize [.integer (-1)]).runFrom 7 =
      (.error (.configuration .unspecified), 7) ∧
    MadeForLength (threeType 7) 3 ∧ MadeForLength (threeType 8) 3 ∧
    vectorLength? (threeType 7) = some 3 ∧ (threeType 7).sameType (threeType 8) = true ∧
    List.Forall₂ (Overload.Exchanged (threeType 7) (threeType 8)) [oneOrFace (threeType 7)]
      [oneOrFace (threeType 8)] ∧
    (DispatchTable.ofOverloads [oneOrFace (threeType 7)]).get [threeType 8] =
      some (oneOrFace (threeType 8)).implementation := by
  obtain ⟨specializes, -, made, exchange⟩ := vectorOfLength_roundTrip (υ := fun _ => Empty)
  have negative : ¬ ∃ length : Int64, [Param.integer (-1)] =
      ([.integer length] : List (Param (NumericRule fun _ => Empty))) ∧ 0 ≤ length := by
    rintro ⟨length, same, counts⟩
    simp only [List.cons.injEq, Param.integer.injEq, and_true] at same
    subst same
    exact absurd counts (by decide)
  have exchanged : List.Forall₂ (Overload.Exchanged (threeType 7) (threeType 8))
      [oneOrFace (threeType 7)] [oneOrFace (threeType 8)] :=
    .cons ⟨rfl, .cons (.list (.cons (.same _) (.cons (.type .secondForFirst) .nil))) .nil⟩ .nil
  obtain ⟨same, resolved⟩ :=
    exchange _ _ 3 3 (madeForLength_threeType 7) (madeForLength_threeType 8)
  have accepts : (oneOrFace (threeType 8)).signature.accepts [.type (threeType 8)] = true := by
    simp [oneOrFace, Signature.accepts, Param.allSatisfy, Param.satisfies, Param.offersType,
      TypeNode.implements_of_sameType]
  refine ⟨negative, (specializes _ 7).2 negative, madeForLength_threeType 7,
    madeForLength_threeType 8, (made _ 3 (madeForLength_threeType 7)).1, same.mpr rfl, exchanged,
    ?_⟩
  rw [(resolved rfl _ _ exchanged).2 _ [threeType 8] (.cons (.same _) .nil), DispatchTable.get,
    DispatchTable.resolve_ofOverloads]
  simp [accepts]

end MultiDispatch.Numeric
