/-! How many arguments a function takes. -/

namespace FieldFormula

inductive ArgCount where
  | exactly (count : Nat)
  | atLeast (least : Nat)
  | between (least most : Nat)
deriving DecidableEq

namespace ArgCount

def accepts : ArgCount → Nat → Bool
  | exactly count, actual => actual == count
  | atLeast least, actual => least ≤ actual
  | between least most, actual => least ≤ actual && actual ≤ most

def arguments (count : Nat) : String :=
  toString count ++ if count = 1 then " argument" else " arguments"

def description : ArgCount → String
  | exactly 0 => "no arguments"
  | exactly count => "exactly " ++ arguments count
  | atLeast least => "at least " ++ arguments least
  | between least most =>
    "between " ++ toString least ++ " and " ++ toString most ++ " arguments"

end ArgCount

end FieldFormula
