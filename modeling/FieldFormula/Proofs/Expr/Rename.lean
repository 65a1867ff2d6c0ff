import Mathlib.Data.List.Basic
import FieldFormula.Expr.Rename
import FieldFormula.Proofs.Expr.Check
import FieldFormula.Proofs.Expr.Mirror

/-! Renaming keeps the shape of an expression with its notes, calls and literals, and changes the
names of its references alone. -/

namespace FieldFormula.Expr

variable {α : Type} {newName : String → String} {link : Option String}

theorem renameAll_eq_map (args : List (Expr α)) :
    renameAll newName link args = args.map (rename newName link) := by
  induction args with
  | nil => rfl
  | cons arg args ih => rw [renameAll, ih, List.map_cons]

@[simp] theorem note_rename (expr : Expr α) : (expr.rename newName link).note = expr.note := by
  cases expr <;> simp only [rename, note]

theorem map_note_map_rename (exprs : List (Expr α)) :
    (exprs.map (rename newName link)).map note = exprs.map note := by
  rw [List.map_map]
  exact List.map_congr_left fun expr _ => note_rename expr

theorem rename_id_dependency (dependency : Dependency) : dependency.rename id none = dependency := by
  obtain ⟨field, via⟩ := dependency
  cases via <;> rfl

/-- New names that are the old ones change nothing. -/
theorem rename_id (expr : Expr α) : expr.rename id none = expr := by
  induction expr using induction_on_args with
  | string | integer | decimal | boolean => rw [rename]
  | reference field via note => rw [rename, rename_id_dependency]
  | call function args note ih =>
    rw [rename, renameAll_eq_map, List.map_congr_left ih, List.map_id']

theorem decimalsOfAll_eq_flatMap (args : List (Expr α)) :
    decimalsOfAll args = args.flatMap decimals := by
  induction args with
  | nil => rfl
  | cons arg args ih => rw [decimalsOfAll, ih, List.flatMap_cons]

@[simp] theorem decimals_rename (expr : Expr α) :
    (expr.rename newName link).decimals = expr.decimals := by
  induction expr using induction_on_args with
  | string | integer | decimal | boolean => rw [rename]
  | reference => simp only [rename, decimals]
  | call function args note ih =>
    rw [rename, decimals, decimals, decimalsOfAll_eq_flatMap, decimalsOfAll_eq_flatMap,
      renameAll_eq_map, List.flatMap_map]
    exact List.flatMap_congr ih

end FieldFormula.Expr
