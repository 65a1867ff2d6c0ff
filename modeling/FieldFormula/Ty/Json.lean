import FieldFormula.Json.Usable
import FieldFormula.Ty

/-! Types as JSON: an object with the name of the type as its `type`, and the parameter of the type
under a key of its own; or an array of the name and the parameter. -/

namespace FieldFormula.Ty

/-- The names of types in JSON, in the order in which they are numbered. -/
def tags : List String :=
  ["untyped", "error", "text", "number", "boolean", "date", "duration", "link", "array", "lookup"]

def toJson : Ty → Json
  | .untyped => .ofMembers [("type", .ofText "untyped")]
  | .error message => .ofMembers [("type", .ofText "error"), ("message", .ofText message)]
  | .text => .ofMembers [("type", .ofText "text")]
  | .number decimalPlaces =>
    .ofMembers [("type", .ofText "number"), ("decimal_places", .ofNat decimalPlaces.toNat)]
  | .boolean => .ofMembers [("type", .ofText "boolean")]
  | .date includeTime => .ofMembers [("type", .ofText "date"), ("include_time", .bool includeTime)]
  | .duration => .ofMembers [("type", .ofText "duration")]
  | .link => .ofMembers [("type", .ofText "link")]
  | .array element => .ofMembers [("type", .ofText "array"), ("element", element.toJson)]
  | .lookup element => .ofMembers [("type", .ofText "lookup"), ("element", element.toJson)]

def parameterKey? (tag : String) : Option String :=
  if tag = "error" then some "message"
  else if tag = "number" then some "decimal_places"
  else if tag = "date" then some "include_time"
  else if tag = "array" ∨ tag = "lookup" then some "element"
  else none

/-- The name of a type. Within another type it may be given by its number. -/
def tagOf? (nested : Bool) (json : Json) : Option String :=
  match json.text?, nested, json.natural? with
  | some tag, _, _ => if tags.contains tag then some tag else none
  | none, true, some index => tags[index]?
  | _, _, _ => none

/-- The name of a type and its parameter, if it has one. All other members of an object are passed
over. -/
def parts? (nested : Bool) (json : Json) : Option (String × Option Json) := do
  match json with
  | .object _ =>
    let members ← json.members?
    let tag ← tagOf? nested (← Json.only? "type" members)
    match parameterKey? tag with
    | none => return (tag, none)
    | some key => return (tag, some (← Json.only? key members))
  | .array (first :: rest) =>
    let tag ← tagOf? nested first
    match parameterKey? tag, rest with
    | none, [] => return (tag, none)
    | some _, [parameter] => return (tag, some parameter)
    | _, _ => none
  | _ => none

/-- Reads a type that is nested at most `room` levels deep. -/
def ofJsonWithin (nested : Bool) : Nat → Json → Option Ty
  | 0, _ => none
  | room + 1, json => do
    match ← parts? nested json with
    | ("untyped", none) => return .untyped
    | ("text", none) => return .text
    | ("boolean", none) => return .boolean
    | ("duration", none) => return .duration
    | ("link", none) => return .link
    | ("error", some parameter) => return .error (← parameter.text?)
    | ("number", some parameter) => return .number (← parameter.naturalBelow? UInt32.size).toUInt32
    | ("date", some (.bool includeTime)) => return .date includeTime
    | ("array", some parameter) => return .array (← ofJsonWithin true room parameter)
    | ("lookup", some parameter) => return .lookup (← ofJsonWithin true room parameter)
    | _ => none

def ofJson? (room : Nat) (json : Json) : Option Ty :=
  if json.isUsable room then ofJsonWithin false room json else none

def ofDocument? (document : String) : Option Ty := do
  let json ← Json.read document
  ofJson? Json.maxNesting json

end FieldFormula.Ty
