import MultiDispatch.DispatchTable

set_option autoImplicit false
set_option relaxedAutoImplicit false

/-!
# Registries of operators

A registry maps names of operators to dispatch tables.  The table of a name comes into being with
the first registration under it; names are listed in that order.

## Main definitions

* `MultiDispatch.Registry` — tables by name.
* `MultiDispatch.Registry.add`, `ofEntries` — registration of implementations.
* `MultiDispatch.Registry.get?`, `getStrict`, `call` — look-up and calls by name.

## Main results

* `MultiDispatch.Registry.get?_add` — a registration shows in the table of its name only.
-/

namespace MultiDispatch

variable {ρ : Role → Type}

/-- Dispatch tables by the name of the operator. -/
structure Registry (ρ : Role → Type) where
  tables : InsertionMap String (DispatchTable ρ)

namespace Registry

/-- The registry without operators. -/
def empty : Registry ρ := ⟨.empty⟩

/-- Registers an implementation under a name and a signature. -/
def add (registry : Registry ρ) (name : String) (signature : Signature ρ)
    (implementation : Implementation ρ) : Registry ρ :=
  ⟨registry.tables.alter name fun table =>
    (table.getD .empty).add signature implementation⟩

/-- Registers a new implementation with these rules. -/
def addNew (registry : Registry ρ) (name : String) (signature : Signature ρ)
    (resultType : ResultType ρ) (compute : List (Tagged ρ) → Except TypeFault Payload) :
    Fresh (Registry ρ) := do
  return registry.add name signature (← Implementation.new resultType compute)

/-- One registration: an implementation under a name and a signature. -/
structure Entry (ρ : Role → Type) where
  name : String
  signature : Signature ρ
  implementation : Implementation ρ

/-- The registry after a registration. -/
def addEntry (registry : Registry ρ) (entry : Entry ρ) : Registry ρ :=
  registry.add entry.name entry.signature entry.implementation

/-- The registry that a sequence of registrations makes of the empty one. -/
def ofEntries (entries : List (Entry ρ)) : Registry ρ := entries.foldl addEntry .empty

/-- The table of a name, if the name is registered. -/
def get? (registry : Registry ρ) (name : String) : Option (DispatchTable ρ) :=
  registry.tables.get? name

/-- The table of a name; an unknown name is a fault. -/
def getStrict (registry : Registry ρ) (name : String) :
    Except LookupFault (DispatchTable ρ) :=
  match registry.get? name with
  | some table => .ok table
  | none => .error (.unknownOperator name)

/-- Finds the table of a name and calls it. -/
def call [∀ role, DecidableEq (ρ role)] (registry : Registry ρ) (name : String)
    (arguments : List (Tagged ρ)) : Minting DispatchFault (Tagged ρ) :=
  match registry.getStrict name with
  | .ok table => table.call arguments
  | .error fault => throw (.lookup fault)

/-- The names in the order of their first registration. -/
def names (registry : Registry ρ) : List String := registry.tables.keys

/-- Whether a name is registered. -/
def contains (registry : Registry ρ) (name : String) : Bool := registry.tables.contains name

/-- The number of names. -/
def size (registry : Registry ρ) : Nat := registry.tables.size

/-- Whether there are no names. -/
def isEmpty (registry : Registry ρ) : Bool := registry.tables.isEmpty

/-- A registration adds to the table of its name and leaves every other table as it is. -/
theorem get?_add (registry : Registry ρ) (name other : String) (signature : Signature ρ)
    (implementation : Implementation ρ) :
    (registry.add name signature implementation).get? other =
      if name = other then
        some (((registry.get? name).getD .empty).add signature implementation)
      else registry.get? other :=
  InsertionMap.get?_alter ..

end Registry

end MultiDispatch
