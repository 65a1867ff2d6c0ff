import FieldFormula.Json.Usable
import FieldFormula.Limits

/-! Limits as JSON: an object with `max_depth` and `max_string_literal_length`, or an array of the
two. Either may be left out, and there must be nothing else. -/

namespace FieldFormula.Limits

/-- Reads a limit, which is a number of 64 bits. -/
def limitOf? (json : Json) : Option Nat :=
  json.naturalBelow? UInt64.size

def ofJson? (json : Json) : Option Limits := do
  let defaults : Limits := {}
  match json with
  | .object _ =>
    let members ← json.members?
    let known := ["max_depth", "max_string_literal_length"]
    if members.all fun member => known.contains member.1 then
      let depth ← Json.optional? "max_depth" members defaults.maxDepth limitOf?
      let length ←
        Json.optional? "max_string_literal_length" members defaults.maxStringLength limitOf?
      return ⟨depth, length⟩
    else none
  | .array [] => return defaults
  | .array [depth] => return { defaults with maxDepth := ← limitOf? depth }
  | .array [depth, length] => return ⟨← limitOf? depth, ← limitOf? length⟩
  | _ => none

def ofDocument? (document : String) : Option Limits := do
  let json ← Json.read document
  ofJson? json

end FieldFormula.Limits
