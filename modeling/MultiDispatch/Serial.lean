set_option autoImplicit false
set_option relaxedAutoImplicit false

/-!
# Serial numbers

What is built twice from the same description is two things.  Every type and every implementation
therefore carries a serial number, drawn in order from a supply.

## Main definitions

* `MultiDispatch.Serial` — a serial number.
* `MultiDispatch.Fresh` — computations that may draw serial numbers.
* `MultiDispatch.Minting` — such computations that may fail.
* `MultiDispatch.Minting.runFrom` — the result of such a computation and the supply after it.

## Main results

* `MultiDispatch.Minting.runFrom_bind` — computations in a row hand the supply on.
-/

namespace MultiDispatch

/-- A number that tells apart what was built separately. -/
abbrev Serial := Nat

/-- A computation that may draw serial numbers; its state is the next number to be drawn. -/
abbrev Fresh := StateM Serial

/-- A computation that may draw serial numbers and may fail. -/
abbrev Minting (ε : Type) := ExceptT ε Fresh

namespace Fresh

/-- The next serial number. -/
def serial : Fresh Serial := modifyGet fun next => (next, next + 1)

end Fresh

namespace Minting

variable {ε δ α β : Type}

/-- A result that needs no serial number. -/
def ofExcept (result : Except ε α) : Minting ε α := ExceptT.mk (pure result)

/-- The same computation with its failures renamed. -/
def mapFault (rename : ε → δ) (computation : Minting ε α) : Minting δ α :=
  ExceptT.adapt rename computation

/-- What a computation results in when `next` is the next serial number, and the next serial
number after it. -/
def runFrom (computation : Minting ε α) (next : Serial) : Except ε α × Serial :=
  computation.run.run next

/-- A plain result draws no serial number. -/
@[simp] theorem runFrom_pure (a : α) (next : Serial) :
    runFrom (pure a : Minting ε α) next = (.ok a, next) := rfl

/-- A failure draws no serial number. -/
@[simp] theorem runFrom_throw (fault : ε) (next : Serial) :
    runFrom (throw fault : Minting ε α) next = (.error fault, next) := rfl

/-- A result that needs no serial number draws none. -/
@[simp] theorem runFrom_ofExcept (result : Except ε α) (next : Serial) :
    runFrom (ofExcept result) next = (result, next) := rfl

/-- A computation that cannot fail succeeds. -/
@[simp] theorem runFrom_lift (computation : Fresh α) (next : Serial) :
    runFrom (ExceptT.lift computation : Minting ε α) next =
      (.ok (computation.run next).1, (computation.run next).2) := rfl

/-- Of two computations in a row the second starts where the first ends; a failure of the first
is that of both. -/
theorem runFrom_bind (first : Minting ε α) (second : α → Minting ε β) (next : Serial) :
    runFrom (first >>= second) next =
      match runFrom first next with
      | (.ok a, after) => runFrom (second a) after
      | (.error fault, after) => (.error fault, after) := by
  simp only [runFrom, ExceptT.run, StateT.run, bind, ExceptT.bind, ExceptT.mk, StateT.bind]
  cases first next with
  | mk result after => cases result <;> rfl

/-- Renaming failures changes nothing else. -/
theorem runFrom_mapFault (rename : ε → δ) (computation : Minting ε α) (next : Serial) :
    runFrom (computation.mapFault rename) next =
      match runFrom computation next with
      | (.ok a, after) => (.ok a, after)
      | (.error fault, after) => (.error (rename fault), after) := by
  have renamed : runFrom (computation.mapFault rename) next =
      ((runFrom computation next).1.mapError rename, (runFrom computation next).2) := rfl
  rw [renamed]
  cases runFrom computation next with
  | mk result after => cases result <;> rfl

/-- Renaming failures does not touch what succeeds. -/
theorem runFrom_mapFault_eq_ok_iff {rename : ε → δ} {computation : Minting ε α}
    {next after : Serial} {a : α} :
    runFrom (computation.mapFault rename) next = (.ok a, after) ↔
      runFrom computation next = (.ok a, after) := by
  rw [runFrom_mapFault]
  rcases runFrom computation next with ⟨_ | b, last⟩ <;> simp

end Minting

end MultiDispatch
