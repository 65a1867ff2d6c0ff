/-! Double precision, as far as whole numbers need it: rounding to the bits of a significand, and
the end of the range. -/

namespace FieldFormula.Double

def precision : Nat := 53

/-- The multiple of `step` that is closest to a number; halfway between two it is the even one. -/
def roundTo (step number : Nat) : Nat :=
  let below := number / step
  let twice := 2 * (number % step)
  if twice < step || (twice == step && below % 2 == 0) then below * step else (below + 1) * step

/-- The double that is closest to a whole number, were their range unbounded. -/
def round (number : Nat) : Nat :=
  roundTo (Nat.pow 2 (number.log2 + 1 - precision)) number

/-- The least number that is too large for a double: halfway between the largest double and the
power of two after it. -/
def overflow : Nat := Nat.pow 2 1024 - Nat.pow 2 970

end FieldFormula.Double
