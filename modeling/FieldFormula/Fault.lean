import FieldFormula.Position

/-! What can be wrong with the text of a formula, and the wording of each fault. -/

namespace FieldFormula

/-- What the grammar would have accepted at some place. -/
inductive Expectation where
  | expression
  | openBracket
  | closeBracket
  | comma
  | quotedString
  | integer
  | commaOrCloseBracket
  | endOfFormula
deriving DecidableEq

def Expectation.text : Expectation → String
  | expression => "an expression"
  | openBracket => "'('"
  | closeBracket => "')'"
  | comma => "','"
  | quotedString => "a quoted string"
  | integer => "an integer"
  | commaOrCloseBracket => "',' or ')'"
  | endOfFormula => "the end of the formula"

inductive Fault where
  /-- No token starts with this character. -/
  | unrecognised (found : Char)
  | unterminatedString
  | unterminatedComment
  /-- A token that cannot stand where it does. -/
  | mismatched (found : String) (expecting : Expectation)
  /-- A numeral that is not made of digits as it should be. -/
  | invalidNumber (text : String)
  /-- A numeral whose value cannot be held. -/
  | numberOutOfRange (text : String)
  | emptyLookupName
deriving DecidableEq

def Fault.message : Fault → String
  | unrecognised found => "token recognition error at: '" ++ found.toString ++ "'"
  | unterminatedString => "unterminated string literal"
  | unterminatedComment => "unterminated comment"
  | mismatched found expecting =>
    "mismatched input '" ++ found ++ "' expecting " ++ expecting.text
  | invalidNumber text => "invalid number literal '" ++ text ++ "'"
  | numberOutOfRange text => "number literal '" ++ text ++ "' is out of range"
  | emptyLookupName => "lookup field names must not be empty"

structure SyntaxError where
  fault : Fault
  position : Position
deriving DecidableEq

end FieldFormula
