import FieldFormula.Table
import FieldFormula.Ty

/-! What is known about the fields of a table: their types, and for each link field the types of the
fields in the table it links to. -/

namespace FieldFormula

inductive Resolution where
  /-- A field of this type; for a lookup, the type of the field in the linked table. -/
  | found (type : Ty)
  | notFound
  /-- A lookup goes through a field that is not a link. -/
  | notALink
deriving DecidableEq

abbrev Resolver := String → Option String → Resolution

structure Schema where
  fields : Table Ty
  links : Table (Table Ty)

namespace Schema

def empty : Schema := ⟨.empty, .empty⟩

def withField (schema : Schema) (name : String) (type : Ty) : Schema :=
  { schema with fields := schema.fields.insert name type }

/-- Adds a link field with the fields of the table it links to. Unless it has a type already, the
field itself is an array of links. -/
def withLink (schema : Schema) (name : String) (targets : List (String × Ty)) : Schema where
  fields :=
    if schema.fields.contains name then schema.fields
    else schema.fields.insert name (.array .link)
  links := schema.links.insert name (.ofList targets)

def resolve (schema : Schema) : Resolver
  | field, none =>
    match schema.fields.get? field with
    | some type => .found type
    | none => .notFound
  | field, some via =>
    match schema.links.get? via with
    | some targets =>
      match targets.get? field with
      | some type => .found type
      | none => .notFound
    | none => if schema.fields.contains via then .notALink else .notFound

end Schema

end FieldFormula
