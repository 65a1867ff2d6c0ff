import FieldFormula.Dependency
import FieldFormula.Expr
import FieldFormula.Json.Number
import FieldFormula.Json.Text
import FieldFormula.Ty.Json

/-! Expressions and dependencies as JSON. -/

namespace FieldFormula

def Json.ofText? : Option String → Json
  | some text => .ofText text
  | none => .null

namespace Expr

variable {α : Type}

mutual

/-- Every node has its kind first and its note, which `encode` writes, last. -/
def toJsonWith (encode : α → Json) : Expr α → Json
  | string value note => .ofMembers
    [("kind", .ofText "string_literal"), ("value", .ofText value), ("formula_type", encode note)]
  | integer value note => .ofMembers
    [("kind", .ofText "integer_literal"), ("value", .ofInt value.toInt),
      ("formula_type", encode note)]
  | decimal value note => .ofMembers
    [("kind", .ofText "decimal_literal"), ("value", .ofText value.text),
      ("formula_type", encode note)]
  | boolean value note => .ofMembers
    [("kind", .ofText "boolean_literal"), ("value", .bool value), ("formula_type", encode note)]
  | reference field via note => .ofMembers
    [("kind", .ofText "field_reference"), ("field_name", .ofText field),
      ("via_field_name", .ofText? via), ("formula_type", encode note)]
  | call function args note => .ofMembers
    [("kind", .ofText "function_call"), ("function", .ofText function),
      ("args", .array (toJsonWithAll encode args)), ("formula_type", encode note)]

def toJsonWithAll (encode : α → Json) : List (Expr α) → List Json
  | [] => []
  | arg :: args => arg.toJsonWith encode :: toJsonWithAll encode args

end

end Expr

def Dependency.toJson (dependency : Dependency) : Json :=
  .ofMembers
    [("field_name", .ofText dependency.field), ("via_field_name", .ofText? dependency.via)]

end FieldFormula
