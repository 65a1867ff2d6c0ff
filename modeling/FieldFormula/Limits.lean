/-! Bounds on the size of the formulas that are accepted. -/

namespace FieldFormula

structure Limits where
  /-- The deepest nesting of calls, brackets and operators. -/
  maxDepth : Nat := 100
  /-- The longest string literal, counted in characters once its escapes are resolved. -/
  maxStringLength : Nat := 10000
deriving DecidableEq

end FieldFormula
