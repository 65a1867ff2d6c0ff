import FieldFormula.Token

/-! The grammatical form of a formula: one constructor for each way to write an expression, with
literals kept as they were written. -/

namespace FieldFormula

/-- Each node carries the place of its first token; a node of an operator, that of the operator. -/
inductive Tree where
  | string (literal : Quoted) (position : Position)
  | integer (text : String) (position : Position)
  | decimal (text : String) (position : Position)
  | boolean (value : Bool) (position : Position)
  | brackets (inner : Tree) (position : Position)
  | negation (operand : Tree) (position : Position)
  | binary (op : Operator) (left right : Tree) (position : Position)
  | call (name : String) (args : List Tree) (position : Position)
  | field (name : Quoted) (position : Position)
  | lookup (via target : Quoted) (position : Position)
  | fieldById (id : String) (position : Position)

namespace Tree

def position : Tree → Position
  | string _ position | integer _ position | decimal _ position | boolean _ position
  | brackets _ position | negation _ position | binary _ _ _ position | call _ _ position
  | field _ position | lookup _ _ position | fieldById _ position => position

mutual

/-- The number of levels: one for brackets, a minus sign, an operator, and a call with arguments. -/
def height : Tree → Nat
  | brackets inner _ => inner.height + 1
  | negation operand _ => operand.height + 1
  | binary _ left right _ => max left.height right.height + 1
  | call _ args _ => heightUnder args
  | _ => 0

/-- The level that arguments are on, which is none without arguments. -/
def heightUnder : List Tree → Nat
  | [] => 0
  | arg :: args => max (arg.height + 1) (heightUnder args)

end

mutual

def same : Tree → Tree → Bool
  | string literal position, string other place => literal == other && position == place
  | integer text position, integer other place => text == other && position == place
  | decimal text position, decimal other place => text == other && position == place
  | boolean value position, boolean other place => value == other && position == place
  | brackets inner position, brackets other place => inner.same other && position == place
  | negation operand position, negation other place => operand.same other && position == place
  | binary op left right position, binary other first second place =>
    op == other && left.same first && right.same second && position == place
  | call name args position, call other others place =>
    name == other && sameAll args others && position == place
  | field name position, field other place => name == other && position == place
  | lookup via target position, lookup other second place =>
    via == other && target == second && position == place
  | fieldById id position, fieldById other place => id == other && position == place
  | _, _ => false

def sameAll : List Tree → List Tree → Bool
  | [], [] => true
  | tree :: trees, other :: others => tree.same other && sameAll trees others
  | _, _ => false

end

mutual

theorem same_iff : (tree other : Tree) → (tree.same other = true ↔ tree = other)
  | string .., other | integer .., other | decimal .., other | boolean .., other | field .., other
  | lookup .., other | fieldById .., other => by
    cases other <;> simp [same, and_assoc]
  | brackets inner _, other | negation inner _, other => by
    cases other <;> simp [same, same_iff inner]
  | binary _ left right _, other => by
    cases other <;> simp [same, same_iff left, same_iff right, and_assoc]
  | call _ args _, other => by
    cases other <;> simp [same, sameAll_iff args, and_assoc]

theorem sameAll_iff : (trees others : List Tree) → (sameAll trees others = true ↔ trees = others)
  | [], others => by cases others <;> simp [sameAll]
  | tree :: trees, others => by
    cases others <;> simp [sameAll, same_iff tree, sameAll_iff trees]

end

instance : DecidableEq Tree := fun tree other => decidable_of_iff _ (same_iff tree other)

end Tree

end FieldFormula
