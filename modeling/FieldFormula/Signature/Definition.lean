import FieldFormula.Signature.ArgCount
import FieldFormula.Signature.ArgRule
import FieldFormula.Signature.Category
import FieldFormula.Signature.ReturnRule

/-! The definition of a function: its name, the arguments it takes, the type of its result, and what
the manual says about it. -/

namespace FieldFormula

structure Definition where
  /-- In lowercase. -/
  name : String
  /-- The spelling of the operator that stands for the function. -/
  operator : Option String := none
  category : Category := .logical
  description : String := ""
  argCount : ArgCount
  /-- One rule for each position; the last one goes for all further positions. -/
  argRules : List ArgRule := []
  returns : ReturnRule
  /-- Turns lookups into a single value. -/
  isAggregate : Bool := false
  /-- The result changes with time. -/
  needsPeriodicUpdate : Bool := false

namespace Definition

def ofName (name : String) (argCount : ArgCount) (returns : ReturnRule) : Definition where
  name := Text.lowercase name
  argCount := argCount
  returns := returns

def withArgs (definition : Definition) (rules : List ArgRule) : Definition :=
  { definition with argRules := rules }

def withOperator (definition : Definition) (lexeme : String) : Definition :=
  { definition with operator := some lexeme, category := .operator }

def inCategory (definition : Definition) (category : Category) : Definition :=
  { definition with category := category }

def describedAs (definition : Definition) (description : String) : Definition :=
  { definition with description := description }

def aggregating (definition : Definition) : Definition :=
  { definition with isAggregate := true, category := .aggregate }

def periodic (definition : Definition) : Definition :=
  { definition with needsPeriodicUpdate := true }

/-- The rule for the argument at a position; without rules, any single value will do. -/
def argRule (definition : Definition) (index : Nat) : ArgRule :=
  (definition.argRules[index]? <|> definition.argRules.getLast?).getD .any

/-- Checks arguments from position `index` on, where `first` is the type of the first argument. -/
def checkFrom (definition : Definition) (first : Option Ty) :
    Nat → List Ty → Except (Nat × Expected) Unit
  | _, [] => .ok ()
  | index, type :: rest =>
    if type.isError then definition.checkFrom first (index + 1) rest
    else
      match (definition.argRule index).check type first with
      | .ok () => definition.checkFrom first (index + 1) rest
      | .error expected => .error (index, expected)

/-- Checks arguments in order and gives the first that does not pass. Arguments that could not be
typed are passed over. -/
def checkArgs (definition : Definition) (args : List Ty) : Except (Nat × Expected) Unit :=
  definition.checkFrom args.head? 0 args

def returnType (definition : Definition) (args : List Ty) : Ty :=
  definition.returns.resolve args

def parameters (count : Nat) : List String :=
  (List.range count).map fun index => "arg" ++ toString (index + 1)

def usage (definition : Definition) : String :=
  match definition.operator with
  | some lexeme => "a " ++ lexeme ++ " b"
  | none =>
    let names :=
      match definition.argCount with
      | .exactly count => parameters count
      | .atLeast least | .between least _ => parameters least ++ ["..."]
    definition.name ++ "(" ++ ", ".intercalate names ++ ")"

end Definition

end FieldFormula
