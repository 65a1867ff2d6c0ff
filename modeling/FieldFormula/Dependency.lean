import FieldFormula.Sorted

/-! The fields that a formula reads, each either in the row itself or through a link field. -/

namespace FieldFormula

structure Dependency where
  field : String
  /-- The link field that leads to the field. -/
  via : Option String
deriving DecidableEq

namespace Dependency

/-- The order of link fields, where none comes before any. -/
def viaBefore : Option String → Option String → Bool
  | none, some _ => true
  | some first, some second => first < second
  | _, none => false

/-- By field, and then by link field. -/
instance : LT Dependency where
  lt first second :=
    first.field < second.field ∨ first.field = second.field ∧ viaBefore first.via second.via

instance : DecidableLT Dependency := fun first second =>
  inferInstanceAs (Decidable
    (first.field < second.field ∨ first.field = second.field ∧ viaBefore first.via second.via))

def description (dependency : Dependency) : String :=
  match dependency.via with
  | some via => via ++ " -> " ++ dependency.field
  | none => dependency.field

/-- The field of the table itself that is read first: the link field, if there is one. -/
def ownField (dependency : Dependency) : String :=
  dependency.via.getD dependency.field

def ownFields (dependencies : List Dependency) : List String :=
  sortedSet (dependencies.map ownField)

/-- Renames fields. Without `link`, these are fields of the table itself, link fields among them;
with it, they are the fields that are reached through it. -/
def rename (newName : String → String) (link : Option String) (dependency : Dependency) :
    Dependency :=
  match link, dependency.via with
  | none, none => ⟨newName dependency.field, none⟩
  | none, some via => ⟨dependency.field, some (newName via)⟩
  | some link, some via =>
    if via = link then ⟨newName dependency.field, some via⟩ else dependency
  | some _, none => dependency

end Dependency

end FieldFormula
