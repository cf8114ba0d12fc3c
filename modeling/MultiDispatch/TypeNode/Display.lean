import MultiDispatch.TypeNode.Basic

set_option autoImplicit false
set_option relaxedAutoImplicit false

/-!
# Texts of types

A node is displayed by its name, then its template, then its parameters in angle brackets; what
is absent is left out.  For diagnostics a node is shown with its faces and theirs.

## Main definitions

* `MultiDispatch.TypeNode.display`, `MultiDispatch.Param.display` — the texts for users.
* `MultiDispatch.TypeNode.inspect` — the text for diagnostics.

## Main results

* `MultiDispatch.Param.displayAll_eq_map` — lists of parameters are displayed one by one.
-/

namespace MultiDispatch

variable {ρ : Role → Type}

/-- The text of a truth value. -/
def truthText (b : Bool) : String := if b then "true" else "false"

mutual

/-- The text of a node for users. -/
def TypeNode.display : TypeNode ρ → String
  | ⟨_, name, template, params, _, _⟩ =>
    let origin := TypeNode.displayTemplate template
    let start := match name, template with
      | some name, some _ => name ++ " " ++ origin
      | some name, none => name
      | none, _ => origin
    match params with
    | [] => start
    | param :: rest =>
      start ++ "<" ++ ", ".intercalate (param.display :: Param.displayAll rest) ++ ">"

/-- The text of a template, empty if there is none. -/
def TypeNode.displayTemplate : Option (TypeNode ρ) → String
  | none => ""
  | some node => node.display

/-- The text of a parameter for users. -/
def Param.display : Param ρ → String
  | .type node => node.display
  | .integer n => toString n.toInt
  | .string s => s
  | .boolean b => truthText b
  | .list items => "[" ++ ", ".intercalate (Param.displayAll items) ++ "]"

/-- The texts of parameters for users. -/
def Param.displayAll : List (Param ρ) → List String
  | [] => []
  | param :: rest => param.display :: Param.displayAll rest

end

instance : ToString (TypeNode ρ) := ⟨TypeNode.display⟩

instance : ToString (Param ρ) := ⟨Param.display⟩

mutual

/-- The text of a node for diagnostics. -/
def TypeNode.inspect : TypeNode ρ → String
  | node@⟨_, _, _, _, faces, interface⟩ =>
    "TypeNode \x7b type: " ++ Text.quote node.display ++ ", faces: [" ++
      ", ".intercalate (TypeNode.inspectAll faces) ++ "], is_abstract: " ++
      truthText interface.isAbstract ++ " \x7d"

/-- The texts of nodes for diagnostics. -/
def TypeNode.inspectAll : List (TypeNode ρ) → List String
  | [] => []
  | node :: rest => node.inspect :: TypeNode.inspectAll rest

end

/-- Lists of parameters are displayed one by one. -/
theorem Param.displayAll_eq_map (params : List (Param ρ)) :
    Param.displayAll params = params.map Param.display := by
  induction params with
  | nil => rfl
  | cons param rest ih => rw [Param.displayAll, ih, List.map_cons]

end MultiDispatch
