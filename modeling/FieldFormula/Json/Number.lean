import FieldFormula.Double
import FieldFormula.Json
import FieldFormula.Numeral

/-! The numbers that JSON numerals stand for. Whole numbers are read exactly and only from numerals
without a point and an exponent. For all others it matters only whether they are in the range of
double precision. -/

namespace FieldFormula.Json

def ofNat (number : Nat) : Json :=
  .number (toString number)

def ofInt (number : Int) : Json :=
  .number (toString number)

def natural? : Json → Option Nat
  | .number spelling =>
    if Numeral.isDigits spelling.toList then some (Numeral.value spelling.toList) else none
  | _ => none

/-- The whole number of a numeral of digits with an optional sign. -/
def whole? : Json → Option Int
  | .number spelling =>
    let (negative, digits) := Numeral.splitSign spelling.toList
    if Numeral.isDigits digits then some (Numeral.withSign negative (Numeral.value digits))
    else none
  | _ => none

def naturalBelow? (bound : Nat) (json : Json) : Option Nat :=
  json.natural?.filter (· < bound)

/-- A whole number, and the power of ten by which it is to be multiplied. -/
structure Scaled where
  significand : Nat
  exponent : Int

/-- Appends digits to those of `start` as long as the number that they make takes 64 bits, and says
which digits are left over. -/
def appendDigits (start : Nat) : List Char → Nat × List Char
  | [] => (start, [])
  | c :: rest =>
    let next := 10 * start + Numeral.digit c
    if next < UInt64.size then appendDigits next rest else (start, c :: rest)

/-- A numeral cut to the digits that 64 bits have room for. A digit of the whole part that is left
over still counts as a place, one of the fraction does not. -/
def scaled (spelling : List Char) : Scaled :=
  let unsigned := (Numeral.splitSign spelling).2
  let mantissa := unsigned.takeWhile fun c => c != 'e' && c != 'E'
  let fraction := (mantissa.dropWhile Char.isDigit).drop 1
  let (whole, places) := appendDigits 0 (mantissa.takeWhile Char.isDigit)
  let (significand, dropped) := appendDigits whole fraction
  let exponent : Int :=
    match unsigned.drop (mantissa.length + 1) with
    | '-' :: digits => -(Numeral.value digits : Int)
    | '+' :: digits => Numeral.value digits
    | digits => Numeral.value digits
  { significand, exponent := exponent + places.length - (fraction.length - dropped.length) }

/-- The largest power of ten that is a double. -/
def maxPowerOfTen : Nat := 308

/-- Whether a numeral is within the range of double precision. It is read with one multiplication of
doubles: that of its rounded significand by the rounded power of ten. -/
def inDoubleRange (spelling : String) : Bool :=
  let ⟨significand, exponent⟩ := scaled spelling.toList
  significand == 0 || exponent < 0 ||
    (exponent ≤ maxPowerOfTen &&
      Double.round significand * Double.round (Nat.pow 10 exponent.toNat) < Double.overflow)

end FieldFormula.Json
