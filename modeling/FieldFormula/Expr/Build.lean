import FieldFormula.Error
import FieldFormula.Expr
import FieldFormula.Limits
import FieldFormula.Registry
import FieldFormula.Tree

/-! Building expressions from trees. Operators become calls of the functions behind them, literals
get their values, and the function of every call is looked up before its arguments are built. -/

namespace FieldFormula.Expr

/-- The function that a call names, provided that it takes so many arguments. -/
def resolveFunction (registry : Registry) (name : String) (count : Nat) :
    Except Error Definition :=
  match registry.get? name with
  | none => .error (.unknownFunction (Text.lowercase name))
  | some definition =>
    if definition.argCount.accepts count then .ok definition
    else .error (.argumentCount definition.name definition.argCount count)

def readString (limits : Limits) (literal : Quoted) : Except Error String :=
  if limits.maxStringLength < literal.value.length then .error (.stringTooLong limits.maxStringLength)
  else .ok literal.value

def readInteger (text : String) (position : Position) : Except Error Int64 :=
  let (negative, digits) := Numeral.splitSign text.toList
  if Numeral.isDigits digits then
    match Numeral.integer? negative digits with
    | some value => .ok value
    | none => .error (.malformed ⟨.numberOutOfRange text, position⟩)
  else .error (.malformed ⟨.invalidNumber text, position⟩)

def readDecimal (text : String) (position : Position) : Except Error Decimal :=
  let (negative, digits) := Numeral.splitSign text.toList
  let whole := digits.takeWhile Char.isDigit
  match digits.dropWhile Char.isDigit with
  | '.' :: fraction =>
    if Numeral.isDigits whole && Numeral.isDigits fraction then
      match Decimal.ofDigits? negative whole fraction with
      | some value => .ok value
      | none => .error (.malformed ⟨.numberOutOfRange text, position⟩)
    else .error (.malformed ⟨.invalidNumber text, position⟩)
  | _ => .error (.malformed ⟨.invalidNumber text, position⟩)

mutual

/-- Builds the expression of a tree that lies `depth` levels deep. -/
def buildAt (registry : Registry) (limits : Limits) (depth : Nat) (tree : Tree) :
    Except Error (Expr Unit) :=
  if limits.maxDepth < depth then .error .tooLarge
  else
    match tree with
    | .string literal _ => do
      let value ← readString limits literal
      return string value ()
    | .integer text position => do
      let value ← readInteger text position
      return integer value ()
    | .decimal text position => do
      let value ← readDecimal text position
      return decimal value ()
    | .boolean value _ => .ok (boolean value ())
    | .brackets inner _ => buildAt registry limits (depth + 1) inner
    | .negation operand _ => do
      let definition ← resolveFunction registry "minus" 2
      let value ← buildAt registry limits (depth + 1) operand
      return call definition.name [integer 0 (), value] ()
    | .binary op left right _ =>
      match op.function? with
      | none => .error (.unknownOperator op.lexeme)
      | some function => do
        let definition ← resolveFunction registry function 2
        let first ← buildAt registry limits (depth + 1) left
        let second ← buildAt registry limits (depth + 1) right
        return call definition.name [first, second] ()
    | .call name args _ => do
      let definition ← resolveFunction registry name args.length
      let values ← buildAllAt registry limits (depth + 1) args
      return call definition.name values ()
    | .field name _ => do
      let field ← readString limits name
      return reference field none ()
    | .lookup via target position => do
      let link ← readString limits via
      let field ← readString limits target
      if link.isEmpty || field.isEmpty then
        throw (.malformed ⟨.emptyLookupName, position⟩)
      return reference field (some link) ()
    | .fieldById _ _ => .error .deprecatedReference

def buildAllAt (registry : Registry) (limits : Limits) (depth : Nat) :
    List Tree → Except Error (List (Expr Unit))
  | [] => .ok []
  | tree :: trees => do
    let first ← buildAt registry limits depth tree
    let others ← buildAllAt registry limits depth trees
    return first :: others

end

def build (registry : Registry) (limits : Limits) (tree : Tree) : Except Error (Expr Unit) :=
  buildAt registry limits 0 tree

end FieldFormula.Expr
