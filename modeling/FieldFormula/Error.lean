import FieldFormula.Fault
import FieldFormula.Signature.ArgCount
import FieldFormula.Text.Visible
import FieldFormula.Ty

/-! Everything a formula can be rejected for, the short code of each reason and its wording. -/

namespace FieldFormula

inductive Error where
  | malformed (error : SyntaxError)
  | unknownFunction (name : String)
  | argumentCount (function : String) (expected : ArgCount) (actual : Nat)
  /-- Arguments are numbered from zero here, and from one in the message. -/
  | argumentType (function : String) (index : Nat) (expected : Expected) (actual : Ty)
  | unknownOperator (lexeme : String)
  /-- Fields can no longer be referred to by their number. -/
  | deprecatedReference
  | tooLarge
  | stringTooLong (most : Nat)
  /-- A text that no string literal stands for. -/
  | unprintable (value : String)
deriving DecidableEq

namespace Error

def code : Error → String
  | malformed _ => "syntax_error"
  | unknownFunction _ => "unknown_function"
  | argumentCount .. => "invalid_argument_count"
  | argumentType .. => "invalid_argument_type"
  | unknownOperator _ => "unknown_operator"
  | deprecatedReference => "deprecated_feature"
  | tooLarge => "formula_too_large"
  | stringTooLong _ => "string_literal_too_long"
  | unprintable _ => "unprintable_string"

def message : Error → String
  | malformed ⟨fault, position⟩ =>
    s!"Invalid syntax at line {position.line}, col {position.column}: " ++ fault.message
  | unknownFunction name => name ++ " is not a valid function"
  | argumentCount function expected actual =>
    let given := if actual = 1 then " argument was" else " arguments were"
    toString actual ++ given ++ " given to the function " ++ function ++
      ", it must instead be given " ++ expected.description
  | argumentType function index expected actual =>
    "argument number " ++ toString (index + 1) ++ " given to " ++ function ++ " was of type " ++
      actual.description ++ " but " ++ expected.description
  | unknownOperator lexeme => "the operator " ++ lexeme ++ " is not supported"
  | deprecatedReference =>
    "field_by_id references are no longer supported, use field('name') instead"
  | tooLarge => "it exceeded the maximum formula size"
  | stringTooLong most =>
    "an embedded string in the formula over the maximum length of " ++ toString most
  | unprintable value =>
    "the text " ++ Text.visible value ++ " cannot be written as a formula string"

end Error

end FieldFormula
