import FieldFormula.Dependency
import FieldFormula.Expr
import FieldFormula.Table

/-! Renaming the fields that an expression refers to. -/

namespace FieldFormula.Expr

variable {α : Type}

/-- The new name that a table gives to a name; names that are not listed stay. -/
def newNameIn (names : Table String) (name : String) : String :=
  (names.get? name).getD name

mutual

/-- Renames every reference, as `Dependency.rename` does, and keeps all notes. -/
def rename (newName : String → String) (link : Option String) : Expr α → Expr α
  | reference field via note =>
    let renamed := Dependency.rename newName link ⟨field, via⟩
    reference renamed.field renamed.via note
  | call function args note => call function (renameAll newName link args) note
  | string value note => string value note
  | integer value note => integer value note
  | decimal value note => decimal value note
  | boolean value note => boolean value note

def renameAll (newName : String → String) (link : Option String) : List (Expr α) → List (Expr α)
  | [] => []
  | arg :: args => arg.rename newName link :: renameAll newName link args

end

end FieldFormula.Expr
