/-! JSON values. Numbers and strings are kept as they are spelled, strings without the enclosing
quotes, so that a document can be read before it is known what its parts are to mean. -/

namespace FieldFormula

inductive Json where
  | null
  | bool (value : Bool)
  | number (spelling : String)
  | string (spelling : String)
  | array (items : List Json)
  | object (members : List (String × Json))

namespace Json

mutual

/-- How many arrays and objects lie within each other. -/
def height : Json → Nat
  | array items => heightOfItems items + 1
  | object members => heightOfMembers members + 1
  | _ => 0

def heightOfItems : List Json → Nat
  | [] => 0
  | item :: items => max item.height (heightOfItems items)

def heightOfMembers : List (String × Json) → Nat
  | [] => 0
  | (_, value) :: members => max value.height (heightOfMembers members)

end

mutual

/-- Whether all numbers and all strings, keys among them, pass a test on their spelling. -/
def scalars (number string : String → Bool) : Json → Bool
  | .number spelling => number spelling
  | .string spelling => string spelling
  | .array items => scalarsOfItems number string items
  | .object members => scalarsOfMembers number string members
  | _ => true

def scalarsOfItems (number string : String → Bool) : List Json → Bool
  | [] => true
  | item :: items => item.scalars number string && scalarsOfItems number string items

def scalarsOfMembers (number string : String → Bool) : List (String × Json) → Bool
  | [] => true
  | (key, value) :: members =>
    string key && value.scalars number string && scalarsOfMembers number string members

end

mutual

/-- Puts the members of every object in order of their keys. -/
def sortKeys : Json → Json
  | .array items => .array (sortKeysOfItems items)
  | .object members =>
    .object ((sortKeysOfMembers members).mergeSort fun first second => first.1 ≤ second.1)
  | .null => .null
  | .bool value => .bool value
  | .number spelling => .number spelling
  | .string spelling => .string spelling

def sortKeysOfItems : List Json → List Json
  | [] => []
  | item :: items => item.sortKeys :: sortKeysOfItems items

def sortKeysOfMembers : List (String × Json) → List (String × Json)
  | [] => []
  | (key, value) :: members => (key, value.sortKeys) :: sortKeysOfMembers members

end

end Json

end FieldFormula
