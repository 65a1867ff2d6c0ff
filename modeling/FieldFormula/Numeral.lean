/-! Numerals in decimal digits, with an optional minus sign in front. -/

namespace FieldFormula.Numeral

/-- Whether a text is made of at least one digit and nothing else. -/
def isDigits (text : List Char) : Bool :=
  !text.isEmpty && text.all Char.isDigit

def digit (c : Char) : Nat :=
  c.toNat - '0'.toNat

def value (digits : List Char) : Nat :=
  digits.foldl (fun total c => 10 * total + digit c) 0

def splitSign : List Char → Bool × List Char
  | '-' :: rest => (true, rest)
  | rest => (false, rest)

def withSign (negative : Bool) (magnitude : Nat) : Int :=
  if negative then -(magnitude : Int) else magnitude

/-- The whole number of 64 bits that a numeral stands for, if there is one. -/
def integer? (negative : Bool) (digits : List Char) : Option Int64 :=
  let number := withSign negative (value digits)
  if Int64.minValue.toInt ≤ number ∧ number ≤ Int64.maxValue.toInt then some (Int64.ofInt number)
  else none

end FieldFormula.Numeral
