import MultiDispatch.Registry

set_option autoImplicit false
set_option relaxedAutoImplicit false

/-!
# Routers of grouping tokens

A router tells a tokenizer which operator a grouping token, such as an opening bracket, stands
for.  It is made once from a registry and hands out tables without looking up names again; every
operator it is to know must be registered by then.

## Main definitions

* `MultiDispatch.Routing` — which operator each token stands for.
* `MultiDispatch.Router` — the tables of a routing.
* `MultiDispatch.Registry.router` — the router of a routing, or the first unknown name.
* `MultiDispatch.Router.resolve`, `kit` — the table of a token, and all tables once.
-/

namespace MultiDispatch

variable {ρ : Role → Type}

/-- Which operator a grouping token stands for. -/
inductive Routing where
  /-- The same operator for every token. -/
  | all (name : String)
  /-- Tokens with the names of their operators; of several pairs with one token the last one
  counts. -/
  | each (pairs : List (String × String))
deriving DecidableEq, Repr

/-- A token that a tokenizer recognizes by its bracket. -/
class GroupingToken (τ : Type) where
  /-- The text that identifies the token. -/
  bracket : τ → String

instance : GroupingToken String := ⟨id⟩

instance : GroupingToken String.Slice := ⟨String.Slice.copy⟩

/-- A registered operator: a table together with its name, which tells it from other tables of
the registry. -/
structure Operator (ρ : Role → Type) where
  name : String
  table : DispatchTable ρ

/-- The operators of a routing. -/
inductive Router (ρ : Role → Type) where
  /-- The same operator for every token. -/
  | all (operator : Operator ρ)
  /-- Operators by token. -/
  | each (routes : InsertionMap String (Operator ρ))

namespace Registry

/-- The operator of a name; an unknown name is a fault. -/
def operator (registry : Registry ρ) (name : String) : Except LookupFault (Operator ρ) :=
  (registry.getStrict name).map (⟨name, ·⟩)

/-- Adds routes for pairs of a token and a name, the first unknown name being a fault. -/
def addRoutes (registry : Registry ρ) (routes : InsertionMap String (Operator ρ)) :
    List (String × String) → Except LookupFault (InsertionMap String (Operator ρ))
  | [] => .ok routes
  | (token, name) :: rest =>
    match registry.operator name with
    | .ok operator => registry.addRoutes (routes.insert token operator) rest
    | .error fault => .error fault

/-- The router of a routing, or the first name that is not registered. -/
def router (registry : Registry ρ) : Routing → Except LookupFault (Router ρ)
  | .all name => (registry.operator name).map .all
  | .each pairs => (registry.addRoutes .empty pairs).map .each

end Registry

namespace Router

/-- The operator that a token stands for, if any. -/
def resolve {τ : Type} [GroupingToken τ] (router : Router ρ) (token : τ) :
    Option (Operator ρ) :=
  match router with
  | all operator => some operator
  | each routes => routes.get? (GroupingToken.bracket token)

/-- Operators without those whose name came before. -/
def distinct (known : List String) : List (Operator ρ) → List (Operator ρ)
  | [] => []
  | operator :: rest =>
    if operator.name ∈ known then distinct known rest
    else operator :: distinct (operator.name :: known) rest

/-- Every operator that some token stands for, once, in the order of the tokens. -/
def kit : Router ρ → List (Operator ρ)
  | all operator => [operator]
  | each routes => distinct [] routes.values

end Router

end MultiDispatch
