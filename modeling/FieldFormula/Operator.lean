/-! The operators that stand between two operands, how they are spelled, how tightly they bind, and
the functions they stand for. -/

namespace FieldFormula

inductive Operator where
  | and
  | or
  | equal
  | notEqual
  | greater
  | less
  | greaterEqual
  | lessEqual
  | add
  | subtract
  | multiply
  | divide
  /-- Can be written, but no function stands behind it. -/
  | modulo
deriving DecidableEq

namespace Operator

/-- Every operator; one whose spelling starts with the spelling of another stands before it. -/
def all : List Operator :=
  [and, or, equal, notEqual, greaterEqual, lessEqual, greater, less, add, subtract, multiply,
    divide, modulo]

def lexeme : Operator → String
  | and => "&&"
  | or => "||"
  | equal => "="
  | notEqual => "!="
  | greater => ">"
  | less => "<"
  | greaterEqual => ">="
  | lessEqual => "<="
  | add => "+"
  | subtract => "-"
  | multiply => "*"
  | divide => "/"
  | modulo => "%"

/-- Operators of a higher precedence bind tighter; those of one precedence group to the left. -/
def precedence : Operator → Nat
  | and | or => 1
  | equal | notEqual => 2
  | greater | less | greaterEqual | lessEqual => 3
  | add | subtract => 4
  | multiply | divide | modulo => 5

def function? : Operator → Option String
  | and => some "and"
  | or => some "or"
  | equal => some "equal"
  | notEqual => some "not_equal"
  | greater => some "greater_than"
  | less => some "less_than"
  | greaterEqual => some "greater_than_or_equal"
  | lessEqual => some "less_than_or_equal"
  | add => some "add"
  | subtract => some "minus"
  | multiply => some "multiply"
  | divide => some "divide"
  | modulo => none

def ofLexeme? (text : String) : Option Operator :=
  all.find? fun op => op.lexeme == text

theorem mem_all (op : Operator) : op ∈ all := by
  cases op <;> decide

end Operator

end FieldFormula
