import MultiDispatch.Text.Quoted

set_option autoImplicit false
set_option relaxedAutoImplicit false

/-!
# Faults of types and values

What can go wrong when types are built, specialized and used, and when rules are applied to
payloads.  A fault is a cause; its wording and everything else that is reported about it is a
function of the cause.

## Main definitions

* `MultiDispatch.Role` — the operations that a type may have a rule for.
* `MultiDispatch.Diagnostic` — what is reported about a fault.
* `MultiDispatch.ConfigurationFault`, `ReadingFault`, `OperandFault` — the causes.
* `MultiDispatch.TypeFault` — any of them.
-/

namespace MultiDispatch

/-- The operations that a type may have a rule for. -/
inductive Role where
  /-- Reading a literal. -/
  | parse
  /-- Building a payload from raw data. -/
  | create
  /-- Writing a payload. -/
  | stringify
  /-- Building a specialization. -/
  | specialize
deriving DecidableEq, Repr

namespace Role

/-- The word for an operation in messages. -/
def name : Role → String
  | parse => "parse"
  | create => "create"
  | stringify => "stringify"
  | specialize => "specify"

end Role

/-! ## Reports -/

/-- A remark on a part of a source text, its place counted in bytes of UTF-8. -/
structure Label where
  text : String
  offset : Nat
  length : Nat
deriving DecidableEq, Repr

/-- What is reported about a fault. -/
structure Diagnostic where
  /-- One sentence on what went wrong. -/
  message : String
  /-- A name of the kind of fault. -/
  code : String
  /-- Advice on how to mend it. -/
  help : Option String := none
  /-- Remarks on the source text. -/
  labels : List Label := []
  /-- The source text that the remarks are about. -/
  source : Option String := none
deriving DecidableEq, Repr

/-! ## Configuration -/

/-- Defects of a type, found when it is built or used. -/
inductive ConfigurationFault where
  /-- There is neither a name nor a template with parameters. -/
  | unspecified
  /-- A concrete type lacks the rules to write values, or those to make them. -/
  | incomplete (typeName : String)
  /-- A type without a rule for specializing was to be specialized. -/
  | notGeneric (typeName : String)
  /-- A rule for specializing made a type that does not derive from the one specialized. -/
  | notDerived (typeName specialized : String)
  /-- The type has no rule for an operation. -/
  | missingRule (typeName : String) (role : Role)
deriving DecidableEq, Repr

namespace ConfigurationFault

/-- The report on a defect of a type. -/
def diagnostic : ConfigurationFault → Diagnostic
  | unspecified =>
    { message := "Invalid type specification: a type needs a name or a template with parameters"
      code := "polyface::types::invalid_specification"
      help := some "Give the type a name, or build it with TypeSpec::specialization" }
  | incomplete typeName =>
    { message := "Invalid type interface for " ++ typeName ++
        ": a concrete type needs stringify and parse or create"
      code := "polyface::types::invalid_interface"
      help := some "Mark the type abstract, or supply stringify together with parse or create" }
  | notGeneric typeName =>
    { message := "Type " ++ typeName ++ " is not generic"
      code := "polyface::types::not_generic"
      help := some "Only types built with a specify rule can be specialized" }
  | notDerived typeName specialized =>
    { message := "Specialization " ++ specialized ++ " of " ++ typeName ++
        " does not derive from it"
      code := "polyface::types::invalid_specialization"
      help := some ("Build specializations with TypeSpec::specialization so the generic type " ++
        "is both template and face") }
  | missingRule typeName role =>
    { message := "Type " ++ typeName ++ " does not provide " ++ role.name
      code := "polyface::types::missing_operation" }

end ConfigurationFault

/-! ## Reading -/

/-- Why a text is no number literal. -/
inductive LiteralFault where
  /-- There is nothing but blanks. -/
  | empty
  /-- There are two exponent markers or more. -/
  | repeatedExponent
  /-- There is a character that no literal has. -/
  | strayCharacter
  /-- The characters do not form a decimal number. -/
  | notDecimal
deriving DecidableEq, Repr

namespace LiteralFault

/-- The wording of the reason. -/
def reason : LiteralFault → String
  | empty => "empty literal"
  | repeatedExponent => "more than one exponent"
  | strayCharacter => "unexpected character"
  | notDecimal => "not a decimal number"

end LiteralFault

/-- Failures of rules that read literals. -/
inductive ReadingFault where
  /-- The text is no number literal. -/
  | invalidNumber (source : String) (fault : LiteralFault)
  /-- The text is no literal of some other type. -/
  | malformed (typeName input message : String)
deriving DecidableEq, Repr

namespace ReadingFault

/-- The report on a failure to read; a number literal is marked from its first byte to its
last. -/
def diagnostic : ReadingFault → Diagnostic
  | invalidNumber source fault =>
    { message := "Invalid number literal"
      code := "polyface::syntax::invalid_number"
      help := some "Number literals look like 42, 3.14, .5 or 2.1e-3"
      labels := [⟨fault.reason, 0, source.utf8ByteSize⟩]
      source := some source }
  | malformed typeName input message =>
    { message := "Cannot parse " ++ Text.quote input ++ " as " ++ typeName ++ ": " ++ message
      code := "polyface::syntax::malformed" }

end ReadingFault

/-! ## Operands -/

/-- Failures of rules applied to payloads of the wrong shape. -/
inductive OperandFault where
  /-- The operation does not apply to these operands. -/
  | invalidOperand (operation : String) (operands : List String)
deriving DecidableEq, Repr

namespace OperandFault

/-- The report on operands of the wrong shape. -/
def diagnostic : OperandFault → Diagnostic
  | invalidOperand operation operands =>
    { message := "Invalid operand: " ++ operation ++ " cannot be applied to [" ++
        ", ".intercalate operands ++ "]"
      code := "polyface::value::invalid_operand"
      help := some "Check that the overload was registered for matching payloads" }

end OperandFault

/-! ## All faults of types and values -/

/-- Whatever a type or one of its rules may fail with. -/
inductive TypeFault where
  | configuration (fault : ConfigurationFault)
  | reading (fault : ReadingFault)
  | operand (fault : OperandFault)
deriving DecidableEq, Repr

namespace TypeFault

/-- The report on a fault is that of its cause. -/
def diagnostic : TypeFault → Diagnostic
  | configuration fault => fault.diagnostic
  | reading fault => fault.diagnostic
  | operand fault => fault.diagnostic

/-- The fault of an operation on operands of the wrong shape. -/
def invalidOperand (operation : String) (operands : List String) : TypeFault :=
  .operand (.invalidOperand operation operands)

end TypeFault

end MultiDispatch
