import FieldFormula.Schema
import FieldFormula.Ty.Json

/-! Schemas as JSON: an object with `fields` and `links`, or an array of the two. Either may be left
out, and other members are passed over. -/

namespace FieldFormula.Schema

/-- Reads a map whose values `decode` reads; the last of several values for a key holds. -/
def tableOf? {α : Type} (decode : Json → Option α) (json : Json) : Option (Table α) := do
  let members ← json.members?
  let entries ← members.mapM fun member => (decode member.2).map fun value => (member.1, value)
  return .ofList entries

def fieldsOf? (room : Nat) (json : Json) : Option (Table Ty) :=
  tableOf? (Ty.ofJson? (room - 1)) json

def linksOf? (room : Nat) (json : Json) : Option (Table (Table Ty)) :=
  tableOf? (fieldsOf? (room - 1)) json

def ofJson? (json : Json) : Option Schema := do
  let room := Json.maxNesting - 1
  match json with
  | .object _ =>
    let members ← json.members?
    let fields ← Json.optional? "fields" members .empty (fieldsOf? room)
    let links ← Json.optional? "links" members .empty (linksOf? room)
    return ⟨fields, links⟩
  | .array [] => return .empty
  | .array [fields] => return ⟨← fieldsOf? room fields, .empty⟩
  | .array [fields, links] => return ⟨← fieldsOf? room fields, ← linksOf? room links⟩
  | _ => none

def ofDocument? (document : String) : Option Schema := do
  let json ← Json.read document
  ofJson? json

def tableToJson {α : Type} (encode : α → Json) (table : Table α) : Json :=
  .ofMembers (table.entries.map fun entry => (entry.1, encode entry.2))

def toJson (schema : Schema) : Json :=
  .ofMembers
    [("fields", tableToJson Ty.toJson schema.fields),
      ("links", tableToJson (tableToJson Ty.toJson) schema.links)]

end FieldFormula.Schema
