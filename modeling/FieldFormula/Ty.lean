import FieldFormula.Kind

/-! The types of formulas. `untyped` stands for a value whose type is not known and passes every
rule; `error` marks a part that could not be typed, and spreads to the calls it is an argument
of. -/

namespace FieldFormula

inductive Ty where
  | untyped
  | error (message : String)
  | text
  | number (decimalPlaces : UInt32)
  | boolean
  | date (includeTime : Bool)
  | duration
  | link
  /-- A list that a single field holds. -/
  | array (element : Ty)
  /-- The values reached through a link field. -/
  | lookup (element : Ty)
deriving DecidableEq

namespace Ty

/-- The most decimal places a computed number has. -/
def maxDecimalPlaces : UInt32 := 10

def numberWith (decimalPlaces : UInt32) : Ty :=
  .number (if decimalPlaces ≤ maxDecimalPlaces then decimalPlaces else maxDecimalPlaces)

/-- The type of a lookup of values. What is not known or wrong stays so, and a lookup is not wrapped
again. -/
def lookedUp : Ty → Ty
  | .untyped => .untyped
  | .error message => .error message
  | .lookup element => .lookup element
  | other => .lookup other

def kind? : Ty → Option Kind
  | .untyped | .error _ => none
  | .text => some .text
  | .number _ => some .number
  | .boolean => some .boolean
  | .date _ => some .date
  | .duration => some .duration
  | .link => some .link
  | .array _ => some .array
  | .lookup _ => some .lookup

def isError : Ty → Bool
  | .error _ => true
  | _ => false

def isUntyped : Ty → Bool
  | .untyped => true
  | _ => false

def decimalPlaces? : Ty → Option UInt32
  | .number decimalPlaces => some decimalPlaces
  | _ => none

def element? : Ty → Option Ty
  | .array element | .lookup element => some element
  | _ => none

def description : Ty → String
  | .untyped => "untyped"
  | .error _ => "invalid"
  | .text => Kind.text.name
  | .number _ => Kind.number.name
  | .boolean => Kind.boolean.name
  | .date _ => Kind.date.name
  | .duration => Kind.duration.name
  | .link => Kind.link.name
  | .array element => "array of " ++ element.description
  | .lookup element => "lookup of " ++ element.description

end Ty

end FieldFormula
