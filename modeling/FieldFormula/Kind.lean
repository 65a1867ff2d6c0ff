/-! Kinds of values, which are types without their parameters, and which kinds an operation lets
meet. -/

namespace FieldFormula

inductive Kind where
  | text
  | number
  | boolean
  | date
  | duration
  | link
  | array
  | lookup
deriving DecidableEq

def Kind.name : Kind → String
  | text => "text"
  | number => "number"
  | boolean => "boolean"
  | date => "date"
  | duration => "duration"
  | link => "link"
  | array => "array"
  | lookup => "lookup"

/-- How the second operand of an operation depends on the first. -/
inductive Relation where
  | addable
  | subtractable
  | multipliable
  | dividable
  /-- For equality. -/
  | comparable
  /-- For order. -/
  | limitComparable
deriving DecidableEq

/-- The kinds a second operand may have when the first is of the given kind. -/
def Kind.related : Kind → Relation → List Kind
  | .text, .comparable => [.text, .number, .boolean, .date, .link]
  | .text, .limitComparable => [.text, .link]
  | .text, .addable => [.text]
  | .number, .comparable => [.number, .text]
  | .number, .limitComparable | .number, .addable | .number, .subtractable | .number, .dividable =>
    [.number]
  | .number, .multipliable => [.number, .duration]
  | .boolean, .comparable => [.boolean, .text]
  | .date, .comparable => [.date, .text]
  | .date, .limitComparable => [.date]
  | .date, .addable => [.duration]
  | .date, .subtractable => [.date, .duration]
  | .duration, .comparable | .duration, .limitComparable | .duration, .subtractable => [.duration]
  | .duration, .addable => [.duration, .date]
  | .duration, .multipliable | .duration, .dividable => [.number]
  | .link, .comparable => [.link, .text]
  | _, _ => []

/-- What an argument would have had to be. -/
inductive Expected where
  /-- Any single value, so that a lookup has to be aggregated first. -/
  | value
  | oneOf (kinds : List Kind)
  /-- A lookup of one of these kinds, or of any kind if none is listed. -/
  | lookupOf (kinds : List Kind)
deriving DecidableEq

def Kind.names (kinds : List Kind) : String :=
  ",".intercalate (kinds.map Kind.name)

def Expected.description : Expected → String
  | value =>
    "only a single value can be used here, wrap lookups in an aggregate function such as sum"
  | oneOf [] => "there are no possible types usable here"
  | oneOf kinds => "the only usable types for this argument are " ++ Kind.names kinds
  | lookupOf [] => "this argument must be a lookup"
  | lookupOf kinds => "this argument must be a lookup of " ++ Kind.names kinds

end FieldFormula
