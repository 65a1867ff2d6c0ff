import FieldFormula.Error
import FieldFormula.Limits
import FieldFormula.Token.Feed
import FieldFormula.Tree

/-! Parsing by precedence. A parser looks at one lexeme at a time and remembers where it stands also
when it fails. What may still be nested is counted down as it goes deeper. -/

namespace FieldFormula

/-- A place in a feed: the lexeme in view and the answers behind it. -/
structure Cursor where
  current : Lexeme
  feed : Feed

/-- Parsers keep the cursor when they fail. -/
abbrev Parse := EStateM Error Cursor

namespace Parse

def start (source : String) : Except Error Cursor :=
  match (Feed.ofSource source).next with
  | (.ok current, feed) => .ok ⟨current, feed⟩
  | (.error error, _) => .error (.malformed error)

def current : Parse Lexeme := fun cursor => .ok cursor.current cursor

/-- Moves on to the next lexeme and gives the one that was in view. After a fault the view stays. -/
def advance : Parse Lexeme := fun cursor =>
  match cursor.feed.next with
  | (.ok lexeme, feed) => .ok cursor.current ⟨lexeme, feed⟩
  | (.error error, feed) => .error (.malformed error) ⟨cursor.current, feed⟩

def mismatch {α : Type} (expecting : Expectation) : Parse α := do
  let found ← current
  throw (.malformed ⟨.mismatched found.describe expecting, found.position⟩)

def expect (token : Token) (expecting : Expectation) : Parse Unit := do
  if (← current).token = token then
    let _ ← advance
  else
    mismatch expecting

def quoted : Parse Quoted := do
  match (← current).token with
  | .string literal =>
    let _ ← advance
    return literal
  | _ => mismatch .quotedString

def integer : Parse String := do
  match (← current).token with
  | .integer text =>
    let _ ← advance
    return text
  | _ => mismatch .integer

/-- `field('name')`, with the keyword in view. -/
def field (position : Position) : Parse Tree := do
  let _ ← advance
  expect .openBracket .openBracket
  let name ← quoted
  expect .closeBracket .closeBracket
  return .field name position

/-- `lookup('via', 'target')`, with the keyword in view. -/
def lookup (position : Position) : Parse Tree := do
  let _ ← advance
  expect .openBracket .openBracket
  let via ← quoted
  expect .comma .comma
  let target ← quoted
  expect .closeBracket .closeBracket
  return .lookup via target position

/-- `field_by_id(42)`, with the keyword in view. -/
def fieldById (position : Position) : Parse Tree := do
  let _ ← advance
  expect .openBracket .openBracket
  let id ← integer
  expect .closeBracket .closeBracket
  return .fieldById id position

/-- `( inner )`, with the bracket in view. -/
def brackets (inner : Parse Tree) (position : Position) : Parse Tree := do
  let _ ← advance
  let tree ← inner
  expect .closeBracket .closeBracket
  return .brackets tree position

/-- One or more arguments up to and including the closing bracket. Each takes a comma or bracket
with it, so `room` is at least the number of lexemes left. -/
def arguments (argument : Parse Tree) : Nat → Parse (List Tree)
  | 0 => mismatch .commaOrCloseBracket
  | room + 1 => do
    let first ← argument
    match (← current).token with
    | .comma =>
      let _ ← advance
      let others ← arguments argument room
      return first :: others
    | .closeBracket =>
      let _ ← advance
      return [first]
    | _ => mismatch .commaOrCloseBracket

/-- The number of arguments that the lexemes left can hold at most. -/
def room : Parse Nat := fun cursor => .ok (cursor.feed.steps.length + 1) cursor

/-- `name(argument, ...)`, with the name in view. -/
def call (argument : Parse Tree) (name : String) (position : Position) : Parse Tree := do
  let _ ← advance
  expect .openBracket .openBracket
  if (← current).token = .closeBracket then
    let _ ← advance
    return .call name [] position
  else
    let args ← arguments argument (← room)
    return .call name args position

/-- An expression without operators outside brackets; `inner` parses what is nested in it. -/
def primary (inner : Parse Tree) : Parse Tree := do
  let first ← current
  let position := first.position
  match first.token with
  | .string literal =>
    let _ ← advance
    return .string literal position
  | .integer text =>
    let _ ← advance
    return .integer text position
  | .decimal text =>
    let _ ← advance
    return .decimal text position
  | .boolean value =>
    let _ ← advance
    return .boolean value position
  | .openBracket => brackets inner position
  | .field => field position
  | .lookup => lookup position
  | .fieldById => fieldById position
  | .identifier name => call inner name position
  | _ => mismatch .expression

/-- A primary expression behind any number of minus signs. A sign directly before a numeral belongs
to the numeral; any other is a level of its own, whose operand `operand` parses. -/
def signed (inner operand : Parse Tree) : Parse Tree := do
  let first ← current
  if first.token = .operator .subtract then
    let _ ← advance
    match (← current).token with
    | .integer text =>
      let _ ← advance
      return .integer ("-" ++ text) first.position
    | .decimal text =>
      let _ ← advance
      return .decimal ("-" ++ text) first.position
    | _ =>
      let tree ← operand
      return .negation tree first.position
  else
    primary inner

/-- Passes an operator that binds at least as tightly as `lowest`, and goes on as `next` does behind
it. Before anything else the left operand is complete. -/
def join (lowest : Nat) (left : Tree) (next : Operator → Position → Parse Tree) : Parse Tree := do
  let found ← current
  match found.token.operator? with
  | none => return left
  | some op =>
    if op.precedence < lowest then
      return left
    else
      let _ ← advance
      next op found.position

/-- Folds the operators in view that bind at least as tightly as `lowest` onto a left operand.
There may be `room` of them, and `operand` parses their right operands. -/
def chain (operand : Nat → Parse Tree) (lowest : Nat) : Nat → Tree → Parse Tree
  | 0, left => join lowest left fun _ _ => throw .tooLarge
  | room + 1, left => join lowest left fun op position => do
    let right ← operand (op.precedence + 1)
    chain operand lowest room (.binary op left right position)

mutual

/-- An operand with its signs, where `budget` counts the levels that may still be entered, its own
included. -/
def unary : Nat → Cursor → EStateM.Result Error Cursor Tree
  | 0, cursor => .error .tooLarge cursor
  | budget + 1, cursor => signed (level budget 0) (unary budget) cursor

/-- An expression of operators that bind at least as tightly as `lowest`. -/
def level : Nat → Nat → Cursor → EStateM.Result Error Cursor Tree
  | 0, _, cursor => .error .tooLarge cursor
  | budget + 1, lowest, cursor =>
    (signed (level budget 0) (unary budget) >>= chain (level budget) lowest budget) cursor

end

def expression (limits : Limits) (depth : Nat) : Parse Tree :=
  level (limits.maxDepth + 1 - depth) 0

def formula (limits : Limits) : Parse Tree := do
  let tree ← expression limits 0
  if (← current).token = .endOfInput then
    return tree
  else
    mismatch .endOfFormula

end Parse

def Tree.parse (limits : Limits) (source : String) : Except Error Tree := do
  let cursor ← Parse.start source
  match Parse.formula limits cursor with
  | .ok tree _ => .ok tree
  | .error error _ => .error error

end FieldFormula
