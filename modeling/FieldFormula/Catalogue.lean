import FieldFormula.Registry

/-! The functions that every formula can call, with the functions behind the operators among
them. -/

namespace FieldFormula.Catalogue

open Definition

def numeric : List Kind := [.number, .duration]

def ordered : List Kind := [.text, .number, .date, .duration, .link]

def whole : ReturnRule := .fixed (.numberWith 0)

def precise : ReturnRule := .fixed (.numberWith Ty.maxDecimalPlaces)

/-- The type of a sum; text is joined, and a date is moved by a duration. -/
def sumType : List Ty → Ty
  | [.untyped, _] | [_, .untyped] => .untyped
  | [.text, _] => .text
  | [.number first, .number second] => .mostPrecise [.number first, .number second]
  | [.date includeTime, .duration] => .date includeTime
  | [.duration, .date includeTime] => .date includeTime
  | [.duration, .duration] => .duration
  | _ => .untyped

def differenceType : List Ty → Ty
  | [.untyped, _] | [_, .untyped] => .untyped
  | [.number first, .number second] => .mostPrecise [.number first, .number second]
  | [.date _, .date _] => .duration
  | [.date includeTime, .duration] => .date includeTime
  | [.duration, .duration] => .duration
  | _ => .untyped

def productType : List Ty → Ty
  | [.untyped, _] | [_, .untyped] => .untyped
  | [.number first, .number second] => .mostPrecise [.number first, .number second]
  | [.number _, .duration] | [.duration, .number _] => .duration
  | _ => .untyped

def quotientType : List Ty → Ty
  | [.untyped, _] | [_, .untyped] => .untyped
  | [.number _, .number _] => .numberWith Ty.maxDecimalPlaces
  | [.duration, .number _] => .duration
  | _ => .untyped

/-- The type of a choice between two values: that of both if they are of one kind, numbers with the
decimal places of the more precise, and text otherwise. -/
def branchType : List Ty → Ty
  | [_, first, second] =>
    if first.isUntyped || second.isUntyped then .untyped
    else
      match first, second with
      | .number _, .number _ => .mostPrecise [first, second]
      | _, _ => if first.kind? = second.kind? then first else .text
  | _ => .untyped

def collectedType (args : List Ty) : Ty :=
  match args.head?.bind Ty.element? with
  | some element => .array element
  | none => .untyped

def infixed (name lexeme : String) (rules : List ArgRule) (returns : ReturnRule)
    (description : String) : Definition :=
  (((ofName name (.exactly 2) returns).withOperator lexeme).withArgs rules).describedAs description

def function (category : Category) (name : String) (argCount : ArgCount) (rules : List ArgRule)
    (returns : ReturnRule) (description : String) : Definition :=
  (((ofName name argCount returns).inCategory category).withArgs rules).describedAs description

/-- A function that aggregates a lookup, with one rule for each of its arguments. -/
def aggregation (name : String) (rules : List ArgRule) (returns : ReturnRule)
    (description : String) : Definition :=
  (((ofName name (.exactly rules.length) returns).withArgs rules).describedAs
    description).aggregating

def compared : List ArgRule := [.any, .operand .comparable]

def limited : List ArgRule := [.oneOf ordered, .operand .limitComparable]

def operators : List Definition :=
  [infixed "add" "+" [.oneOf [.text, .number, .date, .duration], .operand .addable]
      (.computed sumType) "Adds numbers, joins text or shifts a date by a duration.",
    infixed "minus" "-" [.oneOf [.number, .date, .duration], .operand .subtractable]
      (.computed differenceType) "Subtracts numbers, or dates and durations.",
    infixed "multiply" "*" [.oneOf numeric, .operand .multipliable] (.computed productType)
      "Multiplies two numbers, or a duration by a number.",
    infixed "divide" "/" [.oneOf numeric, .operand .dividable] (.computed quotientType)
      "Divides a number or duration by a number.",
    infixed "equal" "=" compared (.fixed .boolean) "True when both sides are equal.",
    infixed "not_equal" "!=" compared (.fixed .boolean) "True when the sides differ.",
    infixed "greater_than" ">" limited (.fixed .boolean) "Strictly greater comparison.",
    infixed "less_than" "<" limited (.fixed .boolean) "Strictly smaller comparison.",
    infixed "greater_than_or_equal" ">=" limited (.fixed .boolean) "Greater or equal comparison.",
    infixed "less_than_or_equal" "<=" limited (.fixed .boolean) "Smaller or equal comparison.",
    infixed "and" "&&" [.oneOf [.boolean]] (.fixed .boolean) "True when both are true.",
    infixed "or" "||" [.oneOf [.boolean]] (.fixed .boolean) "True when either is true."]

def logical : List Definition :=
  [function .logical "if" (.exactly 3) [.oneOf [.boolean], .any, .any] (.computed branchType)
      "Returns the second argument when the condition holds, else the third.",
    function .logical "not" (.exactly 1) [.oneOf [.boolean]] (.fixed .boolean) "Negates a boolean.",
    function .logical "isblank" (.exactly 1) [.any] (.fixed .boolean)
      "True when the value is empty.",
    function .logical "is_null" (.exactly 1) [.any] (.fixed .boolean)
      "True when the value is missing."]

def text : List Definition :=
  [function .text "concat" (.atLeast 2) [.any] (.fixed .text)
      "Joins the text form of every argument.",
    function .text "upper" (.exactly 1) [.oneOf [.text]] (.fixed .text)
      "Converts text to upper case.",
    function .text "lower" (.exactly 1) [.oneOf [.text]] (.fixed .text)
      "Converts text to lower case.",
    function .text "totext" (.exactly 1) [.any] (.fixed .text) "Converts any value to text.",
    function .text "t" (.exactly 1) [.any] (.fixed .text)
      "Returns text values and blank for anything else.",
    function .text "length" (.exactly 1) [.oneOf [.text]] whole "Number of characters.",
    function .text "reverse" (.exactly 1) [.oneOf [.text]] (.fixed .text)
      "Reverses the characters.",
    function .text "trim" (.exactly 1) [.oneOf [.text]] (.fixed .text)
      "Strips surrounding whitespace.",
    function .text "replace" (.exactly 3) [.oneOf [.text]] (.fixed .text)
      "Replaces every occurrence of the second argument with the third.",
    function .text "search" (.exactly 2) [.oneOf [.text]] whole
      "Position of the second text in the first, or 0.",
    function .text "contains" (.exactly 2) [.oneOf [.text]] (.fixed .boolean)
      "True when the first text contains the second.",
    function .text "left" (.exactly 2) [.oneOf [.text], .oneOf [.number]] (.fixed .text)
      "First n characters.",
    function .text "right" (.exactly 2) [.oneOf [.text], .oneOf [.number]] (.fixed .text)
      "Last n characters.",
    function .text "split_part" (.exactly 3) [.oneOf [.text], .oneOf [.text], .oneOf [.number]]
      (.fixed .text) "The nth part of the text after splitting on a delimiter.",
    function .text "tonumber" (.exactly 1) [.oneOf [.text]] precise "Parses text into a number."]

def number : List Definition :=
  [function .number "abs" (.exactly 1) [.oneOf [.number]] (.sameAsArg 0) "Absolute value.",
    function .number "ceil" (.exactly 1) [.oneOf [.number]] whole "Rounds up to a whole number.",
    function .number "floor" (.exactly 1) [.oneOf [.number]] whole
      "Rounds down to a whole number.",
    function .number "trunc" (.exactly 1) [.oneOf [.number]] whole "Drops the fractional part.",
    function .number "sign" (.exactly 1) [.oneOf [.number]] whole
      "-1, 0 or 1 depending on the sign.",
    function .number "round" (.exactly 2) [.oneOf [.number]] (.sameAsArg 0)
      "Rounds to the given number of decimal places.",
    function .number "sqrt" (.exactly 1) [.oneOf [.number]] precise "Square root.",
    function .number "power" (.exactly 2) [.oneOf [.number]] precise
      "Raises the first number to the second.",
    function .number "mod" (.exactly 2) [.oneOf [.number]] .maxDecimalPlaces
      "Remainder of dividing the first by the second.",
    function .number "greatest" (.exactly 2) [.oneOf [.number]] .maxDecimalPlaces
      "The larger of two numbers.",
    function .number "least" (.exactly 2) [.oneOf [.number]] .maxDecimalPlaces
      "The smaller of two numbers.",
    function .number "even" (.exactly 1) [.oneOf [.number]] (.fixed .boolean)
      "True for even numbers.",
    function .number "odd" (.exactly 1) [.oneOf [.number]] (.fixed .boolean)
      "True for odd numbers."]

def date : List Definition :=
  [(function .date "now" (.exactly 0) [] (.fixed (.date true))
      "The current date and time.").periodic,
    (function .date "today" (.exactly 0) [] (.fixed (.date false)) "The current date.").periodic,
    function .date "todate" (.exactly 2) [.oneOf [.text]] (.fixed (.date false))
      "Parses text into a date using the given format.",
    function .date "day" (.exactly 1) [.oneOf [.date]] whole "Day of the month.",
    function .date "month" (.exactly 1) [.oneOf [.date]] whole "Month of the year.",
    function .date "year" (.exactly 1) [.oneOf [.date]] whole "The year.",
    function .date "date_diff" (.exactly 3) [.oneOf [.text], .oneOf [.date], .oneOf [.date]] whole
      "Difference between two dates in the given unit.",
    function .date "date_interval" (.exactly 1) [.oneOf [.text]] (.fixed .duration)
      "Parses text such as '1 day' into a duration.",
    function .date "datetime_format" (.exactly 2) [.oneOf [.date], .oneOf [.text]] (.fixed .text)
      "Formats a date with the given pattern.",
    function .date "toseconds" (.exactly 1) [.oneOf [.duration]] whole
      "Number of seconds in a duration.",
    function .date "toduration" (.exactly 1) [.oneOf [.number]] (.fixed .duration)
      "Duration of the given number of seconds."]

def link : List Definition :=
  [function .link "link" (.exactly 1) [.oneOf [.text]] (.fixed .link)
      "A clickable link to the url.",
    function .link "button" (.exactly 2) [.oneOf [.text]] (.fixed .link)
      "A button with a url and a label.",
    function .link "get_link_label" (.exactly 1) [.oneOf [.link]] (.fixed .text)
      "The label of a link.",
    function .link "get_link_url" (.exactly 1) [.oneOf [.link]] (.fixed .text)
      "The url of a link."]

def aggregates : List Definition :=
  [aggregation "sum" [.lookupOf numeric] (.elementOf 0) "Sum of the looked up values.",
    aggregation "avg" [.lookupOf numeric] (.elementOf 0) "Average of the looked up values.",
    aggregation "min" [.lookupOf ordered] (.elementOf 0) "Smallest looked up value.",
    aggregation "max" [.lookupOf ordered] (.elementOf 0) "Largest looked up value.",
    aggregation "count" [.lookupOf []] whole "Number of looked up values.",
    aggregation "join" [.lookupOf [.text], .oneOf [.text]] (.fixed .text)
      "Joins looked up text with a delimiter.",
    aggregation "any" [.lookupOf [.boolean]] (.fixed .boolean)
      "True when any looked up value is true.",
    aggregation "every" [.lookupOf [.boolean]] (.fixed .boolean)
      "True when all looked up values are true.",
    aggregation "filter" [.lookupOf [], .lookupOf [.boolean]] (.sameAsArg 0)
      "Keeps the looked up values whose matching condition is true.",
    aggregation "array_agg" [.lookupOf []] (.computed collectedType)
      "Collects looked up values into a list."]

def definitions : List Definition :=
  operators ++ logical ++ text ++ number ++ date ++ link ++ aggregates

end FieldFormula.Catalogue

namespace FieldFormula

def Registry.standard : Registry :=
  .ofDefinitions Catalogue.definitions

end FieldFormula
