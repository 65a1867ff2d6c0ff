import FieldFormula.Error
import FieldFormula.Json.Number
import FieldFormula.Json.Text
import FieldFormula.Ty.Json

/-! Errors as JSON. -/

namespace FieldFormula

def ArgCount.toJson : ArgCount → Json
  | exactly count => .ofMembers [("exactly", .ofNat count)]
  | atLeast least => .ofMembers [("at_least", .ofNat least)]
  | between least most => .ofMembers [("between", .array [.ofNat least, .ofNat most])]

def Kind.toJsonAll (kinds : List Kind) : Json :=
  .array (kinds.map fun kind => .ofText kind.name)

def Expected.toJson : Expected → Json
  | value => .ofMembers [("expected", .ofText "value")]
  | oneOf kinds => .ofMembers [("expected", .ofText "one_of"), ("kinds", Kind.toJsonAll kinds)]
  | lookupOf kinds => .ofMembers [("expected", .ofText "lookup_of"), ("kinds", Kind.toJsonAll kinds)]

namespace Error

def details : Error → List (String × Json)
  | malformed ⟨fault, position⟩ =>
    [("message", .ofText fault.message), ("line", .ofNat position.line),
      ("column", .ofNat position.column)]
  | unknownFunction name => [("name", .ofText name)]
  | argumentCount function expected actual =>
    [("function", .ofText function), ("expected", expected.toJson), ("actual", .ofNat actual)]
  | argumentType function index expected actual =>
    [("function", .ofText function), ("argument_index", .ofNat index),
      ("expected", expected.toJson), ("actual", actual.toJson)]
  | unknownOperator lexeme => [("text", .ofText lexeme)]
  | deprecatedReference => []
  | tooLarge => []
  | stringTooLong most => [("max", .ofNat most)]
  | unprintable value => [("value", .ofText value)]

/-- The report of an error, with its wording in place of that of a fault and all keys in order. -/
def toReport (error : Error) : Json :=
  let details := error.details.filter fun detail => detail.1 != "message"
  (Json.ofMembers (details ++
    [("code", .ofText error.code), ("status", .ofText "error"),
      ("message", .ofText error.message)])).sortKeys

end Error

end FieldFormula
