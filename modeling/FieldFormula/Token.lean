import FieldFormula.Operator
import FieldFormula.Position
import FieldFormula.Quoted

/-! The tokens of a formula, and lexemes: tokens together with their spelling and place. -/

namespace FieldFormula

inductive Token where
  | string (literal : Quoted)
  /-- A whole number, as written. -/
  | integer (text : String)
  /-- A number with a fractional part, as written. -/
  | decimal (text : String)
  | boolean (value : Bool)
  | identifier (name : String)
  | field
  | lookup
  | fieldById
  | operator (op : Operator)
  | openBracket
  | closeBracket
  | comma
  | endOfInput
deriving DecidableEq

inductive Token.Kind where
  | literal
  | identifier
  | keyword
  | operator
  | punctuation
  | endOfInput
deriving DecidableEq

def Token.kind : Token → Token.Kind
  | .string _ | .integer _ | .decimal _ | .boolean _ => .literal
  | .identifier _ => .identifier
  | .field | .lookup | .fieldById => .keyword
  | .operator _ => .operator
  | .openBracket | .closeBracket | .comma => .punctuation
  | .endOfInput => .endOfInput

def Token.operator? : Token → Option Operator
  | .operator op => some op
  | _ => none

/-- A token with the text it was read from and the place of its first character. -/
structure Lexeme where
  token : Token
  spelling : String
  position : Position
deriving DecidableEq

/-- How a lexeme is named in an error message. -/
def Lexeme.describe (lexeme : Lexeme) : String :=
  match lexeme.token with
  | .endOfInput => "the end of the formula"
  | _ => lexeme.spelling

end FieldFormula
