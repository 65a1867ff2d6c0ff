import FieldFormula.Ty

/-! How the type of a call follows from the types of its arguments. -/

namespace FieldFormula

/-- A number with the decimal places of the most precise of the arguments, unless the type of one is
not known. -/
def Ty.mostPrecise (args : List Ty) : Ty :=
  if args.any Ty.isUntyped then .untyped
  else .numberWith ((args.filterMap Ty.decimalPlaces?).foldl max 0)

inductive ReturnRule where
  | fixed (type : Ty)
  | sameAsArg (index : Nat)
  /-- The element type of the array or lookup at a position. -/
  | elementOf (index : Nat)
  | maxDecimalPlaces
  | computed (compute : List Ty → Ty)

/-- The type of a call whose arguments have passed their rules. -/
def ReturnRule.resolve (args : List Ty) : ReturnRule → Ty
  | fixed type => type
  | sameAsArg index => args[index]?.getD .untyped
  | elementOf index => (args[index]?.bind Ty.element?).getD .untyped
  | maxDecimalPlaces => .mostPrecise args
  | computed compute => compute args

end FieldFormula
