import MultiDispatch.Tagged

set_option autoImplicit false
set_option relaxedAutoImplicit false

/-!
# Implementations

An implementation of an operation pairs a rule for the type of the result with a rule for its
payload.  Both look at the same arguments; the type comes first, and the first failure is the
failure of the call.

## Main definitions

* `MultiDispatch.ResultType` — the rule for the type: a constant or a function.
* `MultiDispatch.Implementation` — the pair of rules.
* `MultiDispatch.Implementation.call` — both rules, and the payload tagged with the type.

## Main results

* `MultiDispatch.Implementation.call_of_type_fails` — a failing type rule decides the call.
* `MultiDispatch.Implementation.call_of_type` — otherwise the payload rule does.
-/

namespace MultiDispatch

variable {ρ : Role → Type}

/-- How an implementation finds the type of its result. -/
inductive ResultType (ρ : Role → Type) where
  /-- The same type, whatever the arguments. -/
  | constant (node : TypeNode ρ)
  /-- The type depends on the arguments. -/
  | computed (rule : List (Tagged ρ) → Minting TypeFault (TypeNode ρ))

namespace ResultType

/-- The type of the result for some arguments. -/
def resolve (rule : ResultType ρ) (arguments : List (Tagged ρ)) :
    Minting TypeFault (TypeNode ρ) :=
  match rule with
  | constant node => return node
  | computed rule => rule arguments

/-- The text of a rule for diagnostics. -/
def inspect : ResultType ρ → String
  | constant node => "Constant(" ++ Text.quote node.display ++ ")"
  | computed _ => "Computed"

end ResultType

/-- A rule for the type of a result and a rule for its payload. -/
structure Implementation (ρ : Role → Type) where
  /-- The number that tells this implementation from others. -/
  serial : Serial
  /-- The rule for the type. -/
  resultType : ResultType ρ
  /-- The rule for the payload. -/
  compute : List (Tagged ρ) → Except TypeFault Payload

namespace Implementation

/-- A new implementation with these rules. -/
def new (resultType : ResultType ρ) (compute : List (Tagged ρ) → Except TypeFault Payload) :
    Fresh (Implementation ρ) := do
  return ⟨← Fresh.serial, resultType, compute⟩

/-- The type that a call with these arguments would have. -/
def typeOf (implementation : Implementation ρ) (arguments : List (Tagged ρ)) :
    Minting TypeFault (TypeNode ρ) :=
  implementation.resultType.resolve arguments

/-- Finds the type, then the payload, and puts them together. -/
def call (implementation : Implementation ρ) (arguments : List (Tagged ρ)) :
    Minting TypeFault (Tagged ρ) := do
  let node ← implementation.typeOf arguments
  let payload ← Minting.ofExcept (implementation.compute arguments)
  return node.tag payload

/-- Whether two implementations are the same one. -/
def identical (a b : Implementation ρ) : Bool := a.serial == b.serial

/-- The text of an implementation for diagnostics. -/
def inspect (implementation : Implementation ρ) : String :=
  "TypedFunction \x7b type_rule: " ++ implementation.resultType.inspect ++ ", .. \x7d"

/-- A failing rule for the type decides the call. -/
theorem call_of_type_fails {implementation : Implementation ρ} {arguments : List (Tagged ρ)}
    {next after : Serial} {fault : TypeFault}
    (h : (implementation.typeOf arguments).runFrom next = (.error fault, after)) :
    (implementation.call arguments).runFrom next = (.error fault, after) := by
  rw [call, Minting.runFrom_bind, h]

/-- Once there is a type, the rule for the payload decides the call. -/
theorem call_of_type {implementation : Implementation ρ} {arguments : List (Tagged ρ)}
    {next after : Serial} {node : TypeNode ρ}
    (h : (implementation.typeOf arguments).runFrom next = (.ok node, after)) :
    (implementation.call arguments).runFrom next =
      ((implementation.compute arguments).map node.tag, after) := by
  rw [call, Minting.runFrom_bind, h]
  simp only [Minting.runFrom_bind, Minting.runFrom_ofExcept]
  cases implementation.compute arguments <;> rfl

end Implementation

end MultiDispatch
