import FieldFormula.Registry
import FieldFormula.Text.Lines

/-! The manual: an overview, a page for each topic, a list for each category of functions, and an
entry for each function. -/

namespace FieldFormula.Manual

def overview : String :=
  Text.lines [
    "FORMULA DOCUMENTATION",
    "",
    "Formulas compute a value for every row of a table from the row's fields.",
    "They are built from literals, field references, operators and function calls.",
    "",
    "DOCUMENTATION TOPICS",
    "",
    "  syntax            Literals, field references, lookups and comments",
    "  operators         Infix operators and the functions they stand for",
    "  types             The type system and how types combine",
    "  logical           if, not, isblank, ...",
    "  text              upper, concat, replace, ...",
    "  number            round, abs, power, ...",
    "  date              today, date_diff, datetime_format, ...",
    "  link              link, button, ...",
    "  aggregate         sum, count, join, ... over lookups",
    "",
    "QUICK REFERENCE",
    "",
    "  'text' \"text\"             String literals",
    "  42  1.50  -3              Numbers",
    "  true  false               Booleans",
    "  field('name')             Field of the current row",
    "  lookup('link', 'name')    Field of every linked row",
    "  upper(field('name'))      Function call",
    "  /* ... */  // ...         Comments",
    "",
    "Run 'formula doc <topic>' for a topic, or 'formula doc <function>' for one",
    "function."]

def writing : String :=
  Text.lines [
    "SYNTAX - Formula Notation",
    "",
    "LITERALS",
    "  'text'  \"text\"",
    "    Strings use single or double quotes. Escape the quote in use with a",
    "    backslash: 'it\\'s', \"say \\\"hi\\\"\". Other backslashes are kept as written.",
    "",
    "  42  -7  1.50",
    "    Whole numbers and decimals. A decimal keeps its written precision, so",
    "    1.50 is a number with 2 decimal places.",
    "",
    "  true  false",
    "    Booleans, in any case.",
    "",
    "FIELD REFERENCES",
    "  field('name')",
    "    The value of a field in the current row.",
    "",
    "  lookup('link field', 'target field')",
    "    The target field of every row linked through the link field. A lookup",
    "    holds many values, so it has to be passed to an aggregate function such",
    "    as sum or count.",
    "",
    "  field_by_id(42)",
    "    No longer supported. Reference fields by name.",
    "",
    "FUNCTION CALLS",
    "  name(arg, ...)",
    "    Function names are case-insensitive: UPPER('a') is upper('a').",
    "",
    "COMMENTS",
    "  /* block */  // to end of line"]

def typing : String :=
  Text.lines [
    "TYPES - How Values Combine",
    "",
    "TYPES",
    "  text        'abc', upper(...), concat(...)",
    "  number      Carries its decimal places: 1 has 0, 1.25 has 2",
    "  boolean     true, comparisons, and(...)",
    "  date        today(), todate(...); now() includes the time",
    "  duration    date_interval('1 day'), date - date",
    "  link        link('https://...'), button(...)",
    "  array       A list held by one field, e.g. a link field",
    "  lookup      The values reached through lookup('link', 'field')",
    "",
    "ARITHMETIC",
    "  number + number      number with the larger decimal places",
    "  text + text          text",
    "  date + duration      date",
    "  date - date          duration",
    "  number / number      number with 10 decimal places",
    "",
    "COMPARISONS",
    "  =  !=          Text compares with anything except lookups",
    "  <  >  <=  >=   Text, number, date, duration and link values; both sides",
    "                 must have matching types (text also accepts links)",
    "",
    "ERRORS",
    "  A reference to a deleted field makes the formula invalid without stopping",
    "  the check. Passing a value of the wrong type to a function is an error."]

def padded (width : Nat) (text : String) : String :=
  text ++ String.ofList (List.replicate (width - text.length) ' ')

/-- How a function is named in a list: an operator stands before its function. -/
def heading (definition : Definition) : String :=
  match definition.operator with
  | some lexeme => padded 3 lexeme ++ " " ++ definition.name
  | none => definition.usage

/-- The functions of a category in order of their names. The column of headings is as wide as the
longest has bytes. -/
def listing (registry : Registry) (category : Category) : String :=
  let definitions := registry.definitions.filter fun definition => definition.category = category
  let width := (definitions.map fun definition => (heading definition).utf8ByteSize).foldl max 0
  category.name.toUpper ++ " FUNCTIONS\n\n" ++
    Text.lines (definitions.map fun definition =>
      "  " ++ padded width (heading definition) ++ "  " ++ definition.description)

def entry (definition : Definition) : String :=
  let operator :=
    match definition.operator with
    | some lexeme =>
      ["  Operator:   " ++ lexeme ++ " (a " ++ lexeme ++ " b is " ++ definition.name ++ "(a, b))"]
    | none => []
  let aggregate :=
    if definition.isAggregate then ["  Aggregates lookups into a single value."] else []
  let periodic := if definition.needsPeriodicUpdate then ["  The result changes over time."] else []
  Text.lines
    ([definition.usage, "", "  " ++ definition.description, "",
      "  Category:   " ++ definition.category.name,
      "  Arguments:  " ++ definition.argCount.description] ++ operator ++ aggregate ++ periodic)

/-- What the manual says under a name: a page, the list of a category, or the entry of a function. -/
def topic? (registry : Registry) (name : String) : Option String :=
  let lower := Text.lowercase name
  if lower = "syntax" then some writing
  else if lower = "types" ∨ lower = "type" then some typing
  else
    match Category.ofName? name with
    | some category => some (listing registry category)
    | none => (registry.get? name).map entry

end FieldFormula.Manual
