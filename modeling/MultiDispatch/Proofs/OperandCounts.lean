import Mathlib.Tactic.Lemma
import MultiDispatch.Numeric.Operators
import MultiDispatch.Proofs.FirstMatch

set_option autoImplicit false
set_option relaxedAutoImplicit false

/-!
# Operators called with any number of arguments

An implementation may be called without a table that checks the number of arguments.  Its rule for
the type and its rule for the payload then look at the arguments each in its own way, and a rule
for the type may not look at them at all.  Still, the implementations of the library fail if there
are too few arguments, always with an invalid operand, and look at no argument beyond those that
they need.

## Main definitions

* `MultiDispatch.Implementation.TakesOperands` — what calls with too few or too many arguments do.
* `MultiDispatch.ResultType.SettledBy`, `MultiDispatch.Lift.Takes` — the same for each of the rules.
* `MultiDispatch.Numeric.HasOperandCount` — the implementations of the library and the number of
  arguments that they need.

## Main results

* `MultiDispatch.Implementation.takesOperands_of_rules` — the two rules together.
* `MultiDispatch.Numeric.takesOperands_of_hasOperandCount` — all implementations of the library.
-/

namespace MultiDispatch

variable {ρ : Role → Type}

/-! ## Rules -/

/-- Whether an implementation takes so many operands: a call with fewer arguments fails with an
invalid operand, and a call with more does what the call with the first so many does. -/
structure Implementation.TakesOperands (implementation : Implementation ρ) (count : ℕ) : Prop where
  /-- Too few arguments make for an invalid operand, and nothing is built. -/
  short : ∀ arguments : List (Tagged ρ), arguments.length < count → ∀ next,
    ∃ operation operands, (implementation.call arguments).runFrom next =
      (.error (.invalidOperand operation operands), next)
  /-- Further arguments do not matter. -/
  surplus : ∀ arguments : List (Tagged ρ), count ≤ arguments.length →
    implementation.call arguments = implementation.call (arguments.take count)

/-- Whether so many arguments settle the type: further ones do not matter, and whatever there is,
the rule finds a type or fails with an invalid operand. -/
structure ResultType.SettledBy (rule : ResultType ρ) (count : ℕ) : Prop where
  /-- The rule builds nothing and has only one way to fail. -/
  outcome : ∀ (arguments : List (Tagged ρ)) next,
    (∃ node, (rule.resolve arguments).runFrom next = (.ok node, next)) ∨
      ∃ operation operands, (rule.resolve arguments).runFrom next =
        (.error (.invalidOperand operation operands), next)
  /-- Further arguments do not matter. -/
  surplus : ∀ arguments : List (Tagged ρ), count ≤ arguments.length →
    rule.resolve arguments = rule.resolve (arguments.take count)

/-- Whether a rule for payloads takes so many operands. -/
structure Lift.Takes (compute : List (Tagged ρ) → Except TypeFault Payload) (count : ℕ) :
    Prop where
  /-- Too few arguments make for an invalid operand. -/
  short : ∀ arguments : List (Tagged ρ), arguments.length < count →
    ∃ operation operands, compute arguments = .error (.invalidOperand operation operands)
  /-- Further arguments do not matter. -/
  surplus : ∀ arguments : List (Tagged ρ), count ≤ arguments.length →
    compute arguments = compute (arguments.take count)

/-- An implementation takes as many operands as its rule for payloads if they settle the type.

**Proof sketch.**  With too few arguments the rule for the type may fail or not; if it does, it
fails with an invalid operand, and if not, the rule for the payload does. -/
theorem Implementation.takesOperands_of_rules {implementation : Implementation ρ} {count : ℕ}
    (type : implementation.resultType.SettledBy count)
    (payload : Lift.Takes implementation.compute count) : implementation.TakesOperands count where
  short arguments few next := by
    rcases type.outcome arguments next with ⟨node, typed⟩ | ⟨operation, operands, failed⟩
    · obtain ⟨operation, operands, refused⟩ := payload.short arguments few
      refine ⟨operation, operands, ?_⟩
      rw [call_of_type typed, refused]
      rfl
    · exact ⟨operation, operands, call_of_type_fails failed⟩
  surplus arguments enough := by
    rw [call, call, typeOf, typeOf, type.surplus arguments enough, payload.surplus arguments enough]

namespace ResultType

/-- A constant type is settled by any number of arguments. -/
lemma settledBy_constant (node : TypeNode ρ) (count : ℕ) : (constant node).SettledBy count where
  outcome _ _ := .inl ⟨node, rfl⟩
  surplus _ _ := rfl

/-- The type of the first argument is settled by any positive number of arguments. -/
lemma settledBy_typeOfFirst {count : ℕ} (positive : 0 < count) :
    (computed (ρ := ρ) Lift.typeOfFirst).SettledBy count where
  outcome arguments next := by
    cases arguments with
    | nil => exact .inr ⟨_, _, rfl⟩
    | cons first rest => exact .inl ⟨first.type, rfl⟩
  surplus arguments enough := by
    obtain ⟨count, rfl⟩ := Nat.exists_eq_succ_of_ne_zero (Nat.ne_of_gt positive)
    cases arguments with
    | nil => cases enough
    | cons first rest => rfl

/-- The type of the second argument is settled by two arguments. -/
lemma settledBy_typeOfSecond : (computed (ρ := ρ) Lift.typeOfSecond).SettledBy 2 where
  outcome arguments next := by
    match arguments with
    | [] => exact .inr ⟨_, _, rfl⟩
    | [_] => exact .inr ⟨_, _, rfl⟩
    | _ :: second :: _ => exact .inl ⟨second.type, rfl⟩
  surplus arguments enough := by
    match arguments with
    | [] => simp at enough
    | [_] => simp at enough
    | _ :: _ :: _ => rfl

end ResultType

namespace Lift

/-- A function on one payload takes one operand. -/
lemma takes_unary (function : Payload → Except TypeFault Payload) :
    Takes (ρ := ρ) (unary function) 1 where
  short arguments few := by
    obtain rfl := List.length_eq_zero_iff.1 (Nat.lt_one_iff.1 few)
    exact ⟨_, _, rfl⟩
  surplus arguments enough := by
    cases arguments with
    | nil => simp at enough
    | cons first rest => rfl

/-- A rule takes two operands if it fails on none and on one, and looks at the first two only. -/
lemma takes_two {compute : List (Tagged ρ) → Except TypeFault Payload}
    (none : ∃ operation operands, compute [] = .error (.invalidOperand operation operands))
    (one : ∀ argument, ∃ operation operands,
      compute [argument] = .error (.invalidOperand operation operands))
    (more : ∀ first second rest, compute (first :: second :: rest) = compute [first, second]) :
    Takes compute 2 where
  short arguments few := by
    match arguments with
    | [] => exact none
    | [argument] => exact one argument
    | _ :: _ :: rest =>
      rw [List.length_cons, List.length_cons] at few
      omega
  surplus arguments enough := by
    match arguments with
    | [] => simp at enough
    | [_] => simp at enough
    | first :: second :: rest => exact more first second rest

/-- A function on two payloads takes two operands. -/
lemma takes_binary (function : Payload → Payload → Except TypeFault Payload) :
    Takes (ρ := ρ) (binary function) 2 :=
  takes_two ⟨_, _, rfl⟩ (fun _ => ⟨_, _, rfl⟩) (binary_append function)

end Lift

/-! ## The library -/

/-- What a registry holds for a number of arguments are entries of its log with so many slots. -/
lemma Registry.exists_entry_of_mem_overloads {log : List (Entry ρ)} {name : String}
    {table : DispatchTable ρ} {arity : ℕ} {overload : Overload ρ}
    (found : (ofEntries log).get? name = some table) (there : overload ∈ table.overloads arity) :
    ∃ entry ∈ log, entry.signature.length = arity ∧
      entry.implementation = overload.implementation := by
  rw [get?_ofEntries] at found
  split at found
  · cases found
  · cases found
    rw [(DispatchTable.represents_ofOverloads _).overloads_eq, List.mem_filter, overloadsNamed,
      List.mem_map, decide_eq_true_iff] at there
    obtain ⟨⟨entry, listed, rfl⟩, slots⟩ := there
    exact ⟨entry, (List.mem_filter.1 listed).1, slots, rfl⟩

namespace Numeric

/-- A function on one payload, with the type of the argument, takes one operand. -/
lemma takesOperands_unary (serial : Serial) (function : Payload → Except TypeFault Payload) :
    (⟨serial, .computed Lift.typeOfFirst, Lift.unary function⟩ :
      Implementation ρ).TakesOperands 1 :=
  Implementation.takesOperands_of_rules (ResultType.settledBy_typeOfFirst Nat.one_pos)
    (Lift.takes_unary function)

/-- A function on two payloads, with a type that two arguments settle, takes two operands. -/
lemma takesOperands_binary (serial : Serial) {resultType : ResultType ρ}
    (settled : resultType.SettledBy 2) (function : Payload → Payload → Except TypeFault Payload) :
    (⟨serial, resultType, Lift.binary function⟩ : Implementation ρ).TakesOperands 2 :=
  Implementation.takesOperands_of_rules settled (Lift.takes_binary function)

/-- Operators on two numbers take two operands. -/
lemma takesOperands_binaryOperator (serial : Serial) (operation : String)
    (function : Float → Float → Float) :
    (binaryOperator (ρ := ρ) serial operation function).TakesOperands 2 :=
  takesOperands_binary serial (ResultType.settledBy_typeOfFirst Nat.two_pos) _

/-- Scaling the first argument by the second takes two operands. -/
lemma takes_scaleFirst : Lift.Takes (ρ := ρ) scaleFirst 2 :=
  Lift.takes_two ⟨_, _, rfl⟩ (fun _ => ⟨_, _, rfl⟩) fun _ _ _ => rfl

/-- Scaling the second argument by the first takes two operands. -/
lemma takes_scaleSecond : Lift.Takes (ρ := ρ) scaleSecond 2 :=
  Lift.takes_two ⟨_, _, rfl⟩ (fun _ => ⟨_, _, rfl⟩) fun _ _ _ => rfl

variable {υ : Role → Type}

/-- The operators under signatures of two slots take two operands. -/
lemma takesOperands_standardEntries (first : Serial) :
    ∀ entry ∈ (standardEntries first : List (Registry.Entry (NumericRule υ))),
      entry.signature.length = 2 → entry.implementation.TakesOperands 2 := by
  have typed : (ResultType.computed (ρ := NumericRule υ) Lift.typeOfFirst).SettledBy 2 :=
    ResultType.settledBy_typeOfFirst Nat.two_pos
  intro entry there slots
  simp only [standardEntries, List.mem_cons, List.not_mem_nil, or_false] at there
  rcases there with rfl | rfl | rfl | rfl | rfl | rfl | rfl | rfl | rfl | rfl | rfl | rfl
  iterate 6 exact takesOperands_binaryOperator _ _ _
  · cases slots
  · exact takesOperands_binary _ typed _
  · exact takesOperands_binary _ typed _
  · exact takesOperands_binary _ (ResultType.settledBy_constant number 2) _
  · exact Implementation.takesOperands_of_rules typed takes_scaleFirst
  · exact Implementation.takesOperands_of_rules ResultType.settledBy_typeOfSecond takes_scaleSecond

/-- The implementations of the library with the number of operands that each of them needs. -/
inductive HasOperandCount : Implementation (NumericRule υ) → ℕ → Prop
  /-- Negation needs one. -/
  | negation : HasOperandCount neg 1
  /-- So does every function on one number. -/
  | function (function : Float → Float) (next : Serial) :
    HasOperandCount ((Lift.numeric function).run next).1 1
  /-- The operators on two numbers need two. -/
  | operator {implementation : Implementation (NumericRule υ)}
    (listed : implementation ∈ [add, sub, mul, div, modulo, pow]) :
    HasOperandCount implementation 2
  /-- So does what the standard registry holds under a signature of two slots. -/
  | registered {first : Serial} {name : String} {table : DispatchTable (NumericRule υ)}
    {overload : Overload (NumericRule υ)}
    (found : (standardRegistry.run first).1.get? name = some table)
    (held : overload ∈ table.overloads 2) : HasOperandCount overload.implementation 2

/-- **Operators called with any number of arguments.**  An implementation of the library that needs
so many operands fails with an invalid operand on fewer arguments, whatever their types and
payloads, and with more arguments does what it does with the first so many, down to the type of the
result and the fault. -/
theorem takesOperands_of_hasOperandCount {implementation : Implementation (NumericRule υ)}
    {count : ℕ} (h : HasOperandCount implementation count) :
    implementation.TakesOperands count := by
  cases h with
  | negation => exact takesOperands_unary _ _
  | function function next => exact takesOperands_unary _ _
  | operator listed =>
    simp only [List.mem_cons, List.not_mem_nil, or_false] at listed
    rcases listed with rfl | rfl | rfl | rfl | rfl | rfl <;>
      exact takesOperands_binaryOperator _ _ _
  | registered found held =>
    obtain ⟨entry, listed, slots, same⟩ := Registry.exists_entry_of_mem_overloads found held
    rw [← same]
    exact takesOperands_standardEntries _ entry listed slots

/-! ### Scaling without a vector -/

/-- The operator that scales its second argument, as the standard registry holds it. -/
def scalingSecond : Overload (NumericRule fun _ => Empty) :=
  ⟨.ofTypes [number, vector], ⟨11, .computed Lift.typeOfSecond, scaleSecond⟩⟩

/-- With nothing to scale it fails; and a third argument does not matter. -/
theorem takesOperands_of_hasOperandCount_scalingSecond :
    HasOperandCount scalingSecond.implementation 2 ∧
    (∃ operation operands,
      (scalingSecond.implementation.call [number.tag (.integer 2)]).runFrom 12 =
        (.error (.invalidOperand operation operands), 12)) ∧
    scalingSecond.implementation.call
        [number.tag (.integer 2), number.tag (.list [.boolean true]), vector.tag .unit] =
      scalingSecond.implementation.call
        [number.tag (.integer 2), number.tag (.list [.boolean true])] := by
  have counted : HasOperandCount scalingSecond.implementation 2 :=
    @HasOperandCount.registered _ 7 "*" _ scalingSecond rfl (List.mem_of_getElem? (i := 3) rfl)
  have takes := takesOperands_of_hasOperandCount counted
  exact ⟨counted, takes.short _ (by decide) 12, takes.surplus _ (by decide)⟩

end Numeric

end MultiDispatch
