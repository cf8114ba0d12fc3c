import MultiDispatch.Fault

set_option autoImplicit false
set_option relaxedAutoImplicit false

/-!
# Faults of dispatch

A call by name may fail because the name is unknown, because no implementation takes the
arguments, or because the implementation found fails.

## Main definitions

* `MultiDispatch.LookupFault`, `MultiDispatch.DispatchFault` — the causes.
-/

namespace MultiDispatch

/-- Failures of looking up a name. -/
inductive LookupFault where
  /-- No operator has the name. -/
  | unknownOperator (name : String)
deriving DecidableEq, Repr

namespace LookupFault

/-- The report on an unknown name. -/
def diagnostic : LookupFault → Diagnostic
  | unknownOperator name =>
    { message := "Unknown operator: " ++ name
      code := "polyface::dispatch::unknown_operator"
      help := some ("Register at least one overload for " ++ name ++ " before calling it") }

end LookupFault

/-- Failures of finding and calling an implementation. -/
inductive DispatchFault where
  /-- No implementation takes arguments of these types. -/
  | noMatch (argumentTypes : List String)
  /-- The operator is unknown. -/
  | lookup (fault : LookupFault)
  /-- The implementation failed. -/
  | type (fault : TypeFault)
deriving DecidableEq, Repr

namespace DispatchFault

/-- The report on a failed call. -/
def diagnostic : DispatchFault → Diagnostic
  | noMatch argumentTypes =>
    { message := "No implementation matches argument list (" ++
        ", ".intercalate argumentTypes ++ ")"
      code := "polyface::dispatch::no_matching_implementation"
      help := some ("Registered signatures are tried in insertion order; none accepts these " ++
        "argument types") }
  | lookup fault => fault.diagnostic
  | type fault => fault.diagnostic

end DispatchFault

end MultiDispatch
