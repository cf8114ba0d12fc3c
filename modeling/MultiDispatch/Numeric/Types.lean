import MultiDispatch.Numeric.Literal
import MultiDispatch.Numeric.Printing
import MultiDispatch.Signature
import MultiDispatch.TypeNode.Rulebook

set_option autoImplicit false
set_option relaxedAutoImplicit false

/-!
# Numbers and vectors

The type of numbers is concrete and has literals.  The type of vectors is abstract and generic:
its specializations have a length as their only parameter, and they keep at most that many items.
Rules of other types may be used next to those of numbers and vectors.

## Main definitions

* `MultiDispatch.NumericRule` — the names of the rules of numbers and vectors.
* `MultiDispatch.Numeric.number`, `vector` — the two types.
* `MultiDispatch.Numeric.vectorOfLength`, `vectorLength?` — vectors of a length, and the length.

## Main results

* `MultiDispatch.Numeric.runFrom_build_numberDraft`, `runFrom_build_vectorDraft` — both types are
  what their drafts build.
-/

namespace MultiDispatch

/-- The names of the rules of numbers and vectors, next to the names `υ` of other rules. -/
inductive NumericRule (υ : Role → Type) : Role → Type where
  /-- Reads a number literal. -/
  | readNumber : NumericRule υ .parse
  /-- Writes a number. -/
  | writeNumber : NumericRule υ .stringify
  /-- Makes a list of the first items of the data. -/
  | takeItems (count : UInt64) : NumericRule υ .create
  /-- Writes a vector. -/
  | writeVector : NumericRule υ .stringify
  /-- Specializes vectors by a length. -/
  | ofLength : NumericRule υ .specialize
  /-- Some other rule. -/
  | custom {role : Role} (rule : υ role) : NumericRule υ role

instance {υ : Role → Type} [∀ role, DecidableEq (υ role)] (role : Role) :
    DecidableEq (NumericRule υ role)
  | .readNumber, .readNumber => .isTrue rfl
  | .writeNumber, .writeNumber => .isTrue rfl
  | .takeItems m, .takeItems n => decidable_of_iff (m = n) (by simp)
  | .writeVector, .writeVector => .isTrue rfl
  | .ofLength, .ofLength => .isTrue rfl
  | .custom r, .custom s => decidable_of_iff (r = s) (by simp)
  | .readNumber, .custom _ | .custom _, .readNumber => .isFalse (by simp)
  | .writeNumber, .custom _ | .custom _, .writeNumber => .isFalse (by simp)
  | .writeNumber, .writeVector | .writeVector, .writeNumber => .isFalse (by simp)
  | .writeVector, .custom _ | .custom _, .writeVector => .isFalse (by simp)
  | .takeItems _, .custom _ | .custom _, .takeItems _ => .isFalse (by simp)
  | .ofLength, .custom _ | .custom _, .ofLength => .isFalse (by simp)

namespace Numeric

variable {υ : Role → Type}

/-! ## The rules -/

/-- Whether options ask for an exponent: the first one is the truth value true. -/
def asksForExponent (options : List (Param (NumericRule υ))) : Bool :=
  (options.head?.bind Param.toBool?).getD false

/-- The text of a payload as a number; one without a numeric coercion has its own text. -/
def payloadText (payload : Payload) (options : List (Param (NumericRule υ))) : String :=
  match payload.toFloat? with
  | some x => numberText x (asksForExponent options)
  | none => payload.display

/-- The draft of the vectors of a length. -/
def lengthDraft (base : TypeNode (NumericRule υ)) (length : Int64) : Draft (NumericRule υ) :=
  { Draft.specialization base [.integer length] with
    interface := { create := some (.takeItems length.toUInt64), stringify := some .writeVector } }

/-- Specializes vectors by exactly one parameter, a length that is not negative. -/
def specializeByLength (base : TypeNode (NumericRule υ)) :
    List (Param (NumericRule υ)) → Minting TypeFault (TypeNode (NumericRule υ))
  | [.integer length] =>
    if 0 ≤ length then (lengthDraft base length).build.mapFault .configuration
    else throw (.configuration .unspecified)
  | _ => throw (.configuration .unspecified)

/-- What the rules of numbers and vectors do, given what the other rules do. -/
instance [Interprets υ (NumericRule υ)] : Rulebook (NumericRule υ) where
  parse
    | .readNumber, source, _ => (NumberLiteral.read source).map .number
    | .custom rule, source, options => Interprets.parse rule source options
  create
    | .takeItems count, data => .list (data.take count.toNat)
    | .custom rule, data => Interprets.create (NumericRule υ) rule data
  stringify
    | .writeNumber, payload, options => payloadText payload options
    | .writeVector, payload, _ => vectorText payload
    | .custom rule, payload, options => Interprets.stringify rule payload options
  specialize
    | .ofLength, base, params => specializeByLength base params
    | .custom rule, base, params => Interprets.specialize rule base params

/-- There may be no rules besides those of numbers and vectors. -/
instance : Interprets (fun _ => Empty) (NumericRule fun _ => Empty) where
  parse rule _ _ := rule.elim
  create rule _ := rule.elim
  stringify rule _ _ := rule.elim
  specialize rule _ _ := rule.elim

/-! ## The types -/

/-- The draft of the type of numbers. -/
def numberDraft : Draft (NumericRule υ) :=
  { name := some "Number"
    interface := { parse := some .readNumber, stringify := some .writeNumber } }

/-- The draft of the type of vectors. -/
def vectorDraft : Draft (NumericRule υ) :=
  { name := some "Vector"
    interface := { isAbstract := true, specialize := some .ofLength } }

/-- The type of numbers. -/
def number : TypeNode (NumericRule υ) := numberDraft.toNode 0

/-- The type of vectors of any length. -/
def vector : TypeNode (NumericRule υ) := vectorDraft.toNode 1

/-- The type of numbers is what its draft builds. -/
theorem runFrom_build_numberDraft :
    (numberDraft : Draft (NumericRule υ)).build.runFrom 0 = (.ok number, 1) := rfl

/-- The type of vectors is what its draft builds. -/
theorem runFrom_build_vectorDraft :
    (vectorDraft : Draft (NumericRule υ)).build.runFrom 1 = (.ok vector, 2) := rfl

variable [∀ role, DecidableEq (υ role)]

/-- The vectors of a length.  A length of `2 ^ 63` or more counts as negative. -/
def vectorOfLength [Interprets υ (NumericRule υ)] (length : UInt64) :
    Minting TypeFault (TypeNode (NumericRule υ)) :=
  vector.specialize [.integer length.toInt64]

/-- The length that a specialization carries: its only parameter, an integer. -/
def carriedLength? (node : TypeNode (NumericRule υ)) : Option UInt64 :=
  match node.params with
  | [.integer length] => if node.template.isSome then some length.toUInt64 else none
  | _ => none

/-- The length of a type of vectors: the first that a node of its lineage carries. -/
def vectorLength? (node : TypeNode (NumericRule υ)) : Option UInt64 :=
  if node.implements vector then node.lineage.findSome? carriedLength? else none

end Numeric

end MultiDispatch
