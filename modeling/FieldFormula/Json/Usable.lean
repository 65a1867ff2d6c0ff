import FieldFormula.Json.Number
import FieldFormula.Json.Reader

/-! Documents that are read to be used. A value can be used if it is not nested too deeply, all its
strings stand for texts and its numbers are in range; parts of a document that nobody asks for need
not be like that. -/

namespace FieldFormula.Json

def maxNesting : Nat := 127

/-- Whether a value with `room` levels left for it can be used. -/
def isUsable (room : Nat) (json : Json) : Bool :=
  json.height ≤ room && json.scalars inDoubleRange fun spelling => (textOf? spelling).isSome

def valuesOf (key : String) (members : List (String × Json)) : List Json :=
  (members.filter fun member => member.1 == key).map Prod.snd

def only? (key : String) (members : List (String × Json)) : Option Json :=
  match valuesOf key members with
  | [value] => some value
  | _ => none

/-- Decodes the value of a member that need not be there, but not more than once. -/
def optional? {α : Type} (key : String) (members : List (String × Json)) (default : α)
    (decode : Json → Option α) : Option α :=
  match valuesOf key members with
  | [] => some default
  | [value] => decode value
  | _ => none

end FieldFormula.Json
