import FieldFormula.Numeral

/-! Decimal numbers with a bounded coefficient and a scale. The scale says how many digits stand
behind the point and is kept as written, so 1.50 and 1.5 are different decimals of the same
value. -/

namespace FieldFormula

/-- The first magnitude that is too large for a coefficient: two to the power of 96. -/
def Decimal.bound : Nat := 0x1000000000000000000000000

def Decimal.maxScale : Nat := 28

/-- The number that is `coefficient` divided by ten to the power of `scale`. -/
structure Decimal where
  coefficient : Int
  scale : Nat
  coefficient_lt : coefficient.natAbs < Decimal.bound
  scale_le : scale ≤ Decimal.maxScale
deriving DecidableEq

namespace Decimal

/-- Appends whole digits to a magnitude, unless it grows too large. -/
def appendWhole (magnitude : Nat) : List Char → Option Nat
  | [] => some magnitude
  | c :: rest =>
    let next := 10 * magnitude + Numeral.digit c
    if next < bound then appendWhole next rest else none

/-- Rounds a magnitude up in its last place, giving up a digit behind the point if there is no room
for it. -/
def roundUp (magnitude scale : Nat) : Option (Nat × Nat) :=
  if magnitude + 1 < bound then some (magnitude + 1, scale)
  else if scale = 0 then none
  else some ((magnitude + 1 + 4) / 10, scale - 1)

/-- Appends digits behind the point as long as there is room, and rounds by the first digit that
there is no room for, a five up. -/
def appendFraction (magnitude scale : Nat) : List Char → Option (Nat × Nat)
  | [] => some (magnitude, scale)
  | c :: rest =>
    let next := 10 * magnitude + Numeral.digit c
    if scale < maxScale ∧ next < bound then appendFraction next (scale + 1) rest
    else if 5 ≤ Numeral.digit c then roundUp magnitude scale
    else some (magnitude, scale)

def ofParts? (negative : Bool) (magnitude scale : Nat) : Option Decimal :=
  let coefficient := Numeral.withSign negative magnitude
  if h : coefficient.natAbs < bound ∧ scale ≤ maxScale then some ⟨coefficient, scale, h.1, h.2⟩
  else none

/-- The decimal that digits before and behind a point stand for, rounded if they are too many. -/
def ofDigits? (negative : Bool) (whole fraction : List Char) : Option Decimal := do
  let magnitude ← appendWhole 0 whole
  let (magnitude, scale) ← appendFraction magnitude 0 fraction
  ofParts? negative magnitude scale

/-- Digits, padded with zeros in front so that some stand before the point. -/
def paddedDigits (magnitude scale : Nat) : List Char :=
  let digits := Nat.toDigits 10 magnitude
  List.replicate (scale + 1 - digits.length) '0' ++ digits

/-- All digits of a decimal, with exactly as many behind the point as the scale says. -/
def text (decimal : Decimal) : String :=
  let digits := paddedDigits decimal.coefficient.natAbs decimal.scale
  let sign := if decimal.coefficient < 0 then ['-'] else []
  let whole := digits.take (digits.length - decimal.scale)
  let fraction := digits.drop (digits.length - decimal.scale)
  String.ofList (sign ++ whole ++ if decimal.scale = 0 then [] else '.' :: fraction)

def sameValue (first second : Decimal) : Bool :=
  first.coefficient * Nat.pow 10 second.scale == second.coefficient * Nat.pow 10 first.scale

end Decimal

end FieldFormula
