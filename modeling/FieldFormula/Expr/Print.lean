import FieldFormula.Error
import FieldFormula.Expr
import FieldFormula.Quoted

/-! Printing expressions as formulas. Operators are printed as the calls they stand for. -/

namespace FieldFormula

inductive Layout where
  /-- On one line without blanks. -/
  | compact
  /-- With a blank behind each comma, and each argument on a line of its own where one of them is a
  call. -/
  | pretty
deriving DecidableEq

namespace Layout

/-- What stands between two things on one line. -/
def separator : Layout → String
  | compact => ","
  | pretty => ", "

def margin (indent : Nat) : String :=
  String.ofList (List.replicate (2 * indent) ' ')

def oneLine (layout : Layout) (function : String) (items : List String) : String :=
  function ++ "(" ++ layout.separator.intercalate items ++ ")"

def manyLines (indent : Nat) (function : String) (items : List String) : String :=
  function ++ "(\n" ++ ",\n".intercalate (items.map (margin (indent + 1) ++ ·)) ++ "\n" ++
    margin indent ++ ")"

end Layout

namespace Expr

variable {α : Type}

def quote (value : String) : Except Error String :=
  match Quoted.ofValue? value with
  | some literal => .ok literal.spelling
  | none => .error (.unprintable value)

mutual

/-- Prints an expression whose lines are indented `indent` steps. -/
def printAt (layout : Layout) (indent : Nat) : Expr α → Except Error String
  | string value _ => quote value
  | integer value _ => .ok (toString value.toInt)
  | decimal value _ => .ok value.text
  | boolean value _ => .ok (if value then "true" else "false")
  | reference field none _ => do
    let name ← quote field
    return "field(" ++ name ++ ")"
  | reference field (some via) _ => do
    let link ← quote via
    let name ← quote field
    return layout.oneLine "lookup" [link, name]
  | call function args _ =>
    if layout = .pretty ∧ args.any isCall then do
      let items ← printAllAt layout (indent + 1) args
      return Layout.manyLines indent function items
    else do
      let items ← printAllAt layout indent args
      return layout.oneLine function items

def printAllAt (layout : Layout) (indent : Nat) : List (Expr α) → Except Error (List String)
  | [] => .ok []
  | arg :: args => do
    let first ← printAt layout indent arg
    let others ← printAllAt layout indent args
    return first :: others

end

def print (layout : Layout) (expr : Expr α) : Except Error String :=
  printAt layout 0 expr

end Expr

end FieldFormula
