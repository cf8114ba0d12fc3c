import Mathlib.Data.List.Forall2
import Mathlib.Tactic.Lemma
import MultiDispatch.Numeric.Operators
import MultiDispatch.Proofs.FlatLog
import MultiDispatch.Proofs.Specializing

set_option autoImplicit false
set_option relaxedAutoImplicit false

/-!
# Operands of the standard operators

The standard operators are meant for numbers and for vectors of a length.  Here it is said which
values these are, and which operator takes which kinds of them.  Since numbers and vectors do not
implement each other, dispatch on such operands is a look-up of their kinds in a table.

## Main definitions

* `MultiDispatch.Numeric.Kind`, `MultiDispatch.Numeric.Shape` — what an operand is, without and
  with the length of a vector.
* `MultiDispatch.Numeric.IsOfKind` — a type implements that of one kind only.
* `MultiDispatch.Numeric.HasShape`, `MultiDispatch.Numeric.WellFormed` — the operands meant.
* `MultiDispatch.Numeric.operandKinds` — the operators with the kinds of operands they take.

## Main results

* `MultiDispatch.Numeric.HasShape.implements_iff` — an operand implements the type of its kind and
  not the other one.
* `MultiDispatch.Numeric.firstAccepting_standardEntries` — the entry that decides a call is the one
  for the name and the kinds of the types.
-/

namespace MultiDispatch.Numeric

variable {υ : Role → Type} [∀ role, DecidableEq (υ role)]

/-! ## The nodes of numbers and vectors -/

/-- Vectors of a length are built from their draft, with the next serial number; a length that
counts as negative is refused. -/
lemma runFrom_vectorOfLength [Interprets υ (NumericRule υ)] (length : UInt64) (next : Serial) :
    (vectorOfLength length : Minting TypeFault (TypeNode (NumericRule υ))).runFrom next =
      if 0 ≤ length.toInt64 then (.ok ((lengthDraft vector length.toInt64).toNode next), next + 1)
      else (.error (.configuration .unspecified), next) := by
  have has : (vector : TypeNode (NumericRule υ)).interface.specialize = some .ofLength := rfl
  by_cases counts : 0 ≤ length.toInt64
  · have derives : (lengthDraft (vector : TypeNode (NumericRule υ)) length.toInt64).DerivesFrom
        vector := ⟨rfl, List.mem_singleton_self vector⟩
    have builds : (Interprets.specialize (.ofLength : NumericRule υ .specialize)
        (vector : TypeNode (NumericRule υ)) [.integer length.toInt64]).runFrom next =
        ((lengthDraft vector length.toInt64).build.mapFault TypeFault.configuration).runFrom
          next := by
      change (specializeByLength vector [.integer length.toInt64]).runFrom next = _
      rw [specializeByLength, if_pos counts]
    rw [vectorOfLength, TypeNode.runFrom_specialize_of_build has derives builds, if_pos counts]
    rfl
  · have fails : (Interprets.specialize (.ofLength : NumericRule υ .specialize)
        (vector : TypeNode (NumericRule υ)) [.integer length.toInt64]).runFrom next =
        (.error (.configuration .unspecified), next) := by
      change (specializeByLength vector [.integer length.toInt64]).runFrom next = _
      rw [specializeByLength, if_neg counts, Minting.runFrom_throw]
    rw [vectorOfLength, TypeNode.runFrom_specialize has, fails, if_neg counts]

/-- Numbers and vectors are different types. -/
lemma number_not_sameType_vector :
    (number : TypeNode (NumericRule υ)).sameType vector = false := by
  rw [← Bool.not_eq_true, TypeNode.sameType_iff_bare]
  intro same
  have names : some "Number" = some "Vector" := congrArg TypeNode.name same
  exact absurd names (by decide)

/-- The type of numbers implements itself and not the type of vectors. -/
lemma number_implements_iff {other : TypeNode (NumericRule υ)} :
    (number : TypeNode (NumericRule υ)).implements other = true ↔
      number.sameType other = true := by
  rw [TypeNode.implements_iff_faces]
  simp [number, numberDraft, Draft.toNode]

/-- The type of vectors of a length implements itself and the type of vectors. -/
lemma lengthNode_implements_iff {length : Int64} {serial : Serial}
    {other : TypeNode (NumericRule υ)} :
    ((lengthDraft vector length).toNode serial).implements other = true ↔
      ((lengthDraft vector length).toNode serial).sameType other = true ∨
        vector.sameType other = true := by
  rw [TypeNode.implements_iff_faces]
  have faces : ((lengthDraft (vector : TypeNode (NumericRule υ)) length).toNode serial).faces =
      [vector] := rfl
  have none : (vector : TypeNode (NumericRule υ)).faces = [] := rfl
  refine or_congr_right ?_
  simp only [faces, List.mem_singleton, exists_eq_left]
  rw [TypeNode.implements_iff_faces, none]
  simp only [List.not_mem_nil, false_and, exists_false, or_false]

/-- The type of vectors of a length is another type than one without a template. -/
lemma lengthNode_not_sameType {length : Int64} {serial : Serial}
    {other : TypeNode (NumericRule υ)} (plain : other.template = none) :
    ((lengthDraft vector length).toNode serial).sameType other = false := by
  rw [← Bool.not_eq_true, TypeNode.sameType_iff_bare]
  intro same
  have templates := congrArg TypeNode.template same
  cases other
  subst plain
  cases templates

/-! ## Shapes of operands -/

/-- The kinds of operands. -/
inductive Kind where
  | number
  | vector
deriving DecidableEq, Repr

/-- The type that stands for a kind in signatures. -/
def Kind.type : Kind → TypeNode (NumericRule υ)
  | number => Numeric.number
  | vector => Numeric.vector

/-- Whether a type is of a kind: it implements the type of this kind and not that of the other. -/
def IsOfKind (node : TypeNode (NumericRule υ)) : Kind → Prop
  | .number => node.implements Numeric.number = true ∧ node.implements Numeric.vector = false
  | .vector => node.implements Numeric.vector = true ∧ node.implements Numeric.number = false

/-- A type is of a kind exactly if this is the only kind whose type it implements. -/
lemma isOfKind_iff {node : TypeNode (NumericRule υ)} {kind : Kind} :
    IsOfKind node kind ↔ ∀ other : Kind, node.implements other.type = true ↔ kind = other := by
  constructor
  · intro own other
    cases kind <;> cases other <;> simp [Kind.type, own.1, own.2]
  · intro only
    have number := only .number
    have vector := only .vector
    cases kind <;> simpa [Kind.type, IsOfKind, and_comm] using And.intro number vector

/-- The shapes of operands. -/
inductive Shape where
  /-- A number. -/
  | number
  /-- A vector of a length. -/
  | vector (length : UInt64)
deriving DecidableEq, Repr

/-- The kind of a shape. -/
def Shape.kind : Shape → Kind
  | number => .number
  | vector _ => .vector

variable [Interprets υ (NumericRule υ)]

/-- Whether a value has a shape.  Numbers have the type of numbers and a payload with a numeric
coercion.  Vectors of a length have a type made for that length, and as their payload a list of so
many items, each with a numeric coercion. -/
inductive HasShape : Tagged (NumericRule υ) → Shape → Prop where
  | number {payload : Payload} (numeric : payload.toFloat?.isSome = true) :
    HasShape (Numeric.number.tag payload) .number
  | vector {length : UInt64} {next after : Serial} {node : TypeNode (NumericRule υ)}
    {items : List Payload} (made : (vectorOfLength length).runFrom next = (.ok node, after))
    (count : items.length = length.toNat)
    (numeric : ∀ item ∈ items, item.toFloat?.isSome = true) :
    HasShape (node.tag (.list items)) (.vector length)

/-- Whether a value is a number or a vector of some length. -/
def WellFormed (value : Tagged (NumericRule υ)) : Prop := ∃ shape, HasShape value shape

/-- An operand implements the type of its kind and not that of the other kind. -/
lemma HasShape.implements_iff {value : Tagged (NumericRule υ)} {shape : Shape}
    (h : HasShape value shape) (kind : Kind) :
    value.type.implements kind.type = true ↔ shape.kind = kind := by
  cases h with
  | number numeric =>
    cases kind <;>
      simp [TypeNode.tag, Kind.type, Shape.kind, number_implements_iff, number_not_sameType_vector]
  | vector made count numeric =>
    rw [runFrom_vectorOfLength] at made
    split at made
    · obtain ⟨⟨⟩, -⟩ := Prod.mk.inj made
      have other := number_not_sameType_vector (υ := υ)
      rw [TypeNode.sameType_comm] at other
      have plain : (Numeric.number : TypeNode (NumericRule υ)).template = none := rfl
      cases kind <;>
        simp [TypeNode.tag, Kind.type, Shape.kind, lengthNode_implements_iff, other,
          lengthNode_not_sameType plain]
    · cases made

/-- The type of an operand is of the kind of its shape. -/
lemma HasShape.isOfKind {value : Tagged (NumericRule υ)} {shape : Shape}
    (h : HasShape value shape) : IsOfKind value.type shape.kind :=
  isOfKind_iff.mpr h.implements_iff

/-- The types of operands are of the kinds of their shapes. -/
lemma forall₂_isOfKind {values : List (Tagged (NumericRule υ))} {shapes : List Shape}
    (h : List.Forall₂ HasShape values shapes) :
    List.Forall₂ IsOfKind (values.map (·.type)) (shapes.map Shape.kind) := by
  rw [List.forall₂_map_left_iff, List.forall₂_map_right_iff]
  exact h.imp fun _ _ shaped => shaped.isOfKind

omit [Interprets υ (NumericRule υ)] in
/-- A signature of kinds accepts types exactly if these are their kinds. -/
lemma accepts_kinds_iff {types : List (TypeNode (NumericRule υ))} {own : List Kind}
    (h : List.Forall₂ IsOfKind types own) (kinds : List Kind) :
    Param.allSatisfy (types.map .type) (Signature.ofTypes (kinds.map Kind.type)).slots = true ↔
      own = kinds := by
  change (Signature.ofTypes _).accepts _ = true ↔ _
  rw [Signature.accepts_ofTypes_iff, List.forall₂_map_right_iff]
  induction h generalizing kinds with
  | nil => cases kinds <;> simp
  | cons first _ ih =>
    cases kinds with
    | nil => simp
    | cons kind kinds => rw [List.forall₂_cons, ih, isOfKind_iff.mp first, List.cons.injEq]

/-! ## The table of operators -/

/-- The symbols that have operators. -/
def symbols : List String := ["+", "-", "*", "/", "%", "^"]

/-- The operators with the kinds of operands that they take, in the order of registration. -/
def operandKinds : List (String × List Kind) :=
  [("+", [.number, .number]), ("-", [.number, .number]), ("*", [.number, .number]),
    ("/", [.number, .number]), ("%", [.number, .number]), ("^", [.number, .number]),
    ("-", [.number]), ("+", [.vector, .vector]), ("-", [.vector, .vector]),
    ("*", [.vector, .vector]), ("*", [.vector, .number]), ("*", [.number, .vector])]

omit [∀ role, DecidableEq (υ role)] [Interprets υ (NumericRule υ)] in
/-- Each entry of the standard registry has the name and the kinds of one line of the table. -/
lemma forall₂_standardEntries (first : Serial) :
    List.Forall₂ (fun (line : String × List Kind) (entry : Registry.Entry (NumericRule υ)) =>
        entry.name = line.1 ∧ entry.signature = .ofTypes (line.2.map Kind.type))
      operandKinds (standardEntries first) := by
  simp only [operandKinds, standardEntries, List.forall₂_cons, List.Forall₂.nil, List.map_cons,
    List.map_nil, Kind.type, and_self]

omit [∀ role, DecidableEq (υ role)] [Interprets υ (NumericRule υ)] in
/-- A symbol has operators exactly if an entry of the standard registry has it as its name. -/
lemma exists_name_standardEntries_iff (first : Serial) (name : String) :
    (∃ entry ∈ (standardEntries first : List (Registry.Entry (NumericRule υ))),
      entry.name = name) ↔ name ∈ symbols := by
  simp [standardEntries, symbols, eq_comm]
  tauto

omit [Interprets υ (NumericRule υ)] in
/-- The entry that decides a call is the one next to the name and the kinds of the types in the
table. -/
lemma firstAccepting_standardEntries (first : Serial) (name : String)
    {types : List (TypeNode (NumericRule υ))} {own : List Kind}
    (h : List.Forall₂ IsOfKind types own) :
    Registry.firstAccepting (standardEntries first) name types =
      ((operandKinds.zip (standardEntries first)).find? fun line => line.1 = (name, own)).map
        (·.2) := by
  have lines := forall₂_standardEntries (υ := υ) first
  rw [Registry.firstAccepting]
  generalize operandKinds = table at lines ⊢
  generalize standardEntries first = entries at lines ⊢
  induction lines with
  | nil => rfl
  | @cons line entry lines entries here _ ih =>
    have same : (entry.name = name && Param.allSatisfy (types.map .type) entry.signature.slots) =
        decide (line = (name, own)) := by
      rw [Bool.eq_iff_iff, Bool.and_eq_true, decide_eq_true_iff, decide_eq_true_iff, here.1,
        here.2, accepts_kinds_iff h, Prod.ext_iff, eq_comm (a := line.2)]
    rw [List.zip_cons_cons, List.find?_cons, List.find?_cons, same, ih]
    by_cases matched : line = (name, own) <;> simp [matched]

end MultiDispatch.Numeric
