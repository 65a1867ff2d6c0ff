import FieldFormula.Compiler
import FieldFormula.Expr.Json

/-! Compiled formulas as JSON. -/

namespace FieldFormula.Compiled

def summary (compiled : Compiled) : List (String × Json) :=
  [("formula_type", compiled.type.toJson),
    ("dependencies", .array (compiled.dependencies.map Dependency.toJson)),
    ("functions_used", .array (compiled.functionsUsed.map Json.ofText)),
    ("needs_periodic_update", .bool compiled.needsPeriodicUpdate)]

def toReport (compiled : Compiled) : Json :=
  .ofMembers
    (("status", .ofText "compiled") ::
      ("expression", compiled.expression.toJsonWith Ty.toJson) :: compiled.summary)

end FieldFormula.Compiled
