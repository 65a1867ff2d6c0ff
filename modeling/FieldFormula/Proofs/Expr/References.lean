import FieldFormula.Proofs.Expr.Collect
import FieldFormula.Proofs.Expr.Rename

/-! Changing the references of an expression, all of them in one way. Renaming is such a change, and
what it does to an expression is what it does to the references that stand in it. -/

namespace FieldFormula.Expr

variable {α : Type} {change other : Dependency → Dependency}

mutual

/-- Puts another reference in the place of every reference. -/
def mapReferences (change : Dependency → Dependency) : Expr α → Expr α
  | reference field via note => reference (change ⟨field, via⟩).field (change ⟨field, via⟩).via note
  | call function args note => call function (mapReferencesOfAll change args) note
  | string value note => string value note
  | integer value note => integer value note
  | decimal value note => decimal value note
  | boolean value note => boolean value note

def mapReferencesOfAll (change : Dependency → Dependency) : List (Expr α) → List (Expr α)
  | [] => []
  | arg :: args => arg.mapReferences change :: mapReferencesOfAll change args

end

theorem mapReferencesOfAll_eq_map (args : List (Expr α)) :
    mapReferencesOfAll change args = args.map (mapReferences change) := by
  induction args with
  | nil => rfl
  | cons arg args ih => rw [mapReferencesOfAll, ih, List.map_cons]

theorem rename_eq_mapReferences (newName : String → String) (link : Option String) (expr : Expr α) :
    expr.rename newName link = expr.mapReferences (Dependency.rename newName link) := by
  induction expr using induction_on_args with
  | string | integer | decimal | boolean | reference => rw [rename, mapReferences]
  | call function args note ih =>
    rw [rename, mapReferences, renameAll_eq_map, mapReferencesOfAll_eq_map, List.map_congr_left ih]

theorem mapReferences_mapReferences (expr : Expr α) :
    (expr.mapReferences change).mapReferences other = expr.mapReferences (other ∘ change) := by
  induction expr using induction_on_args with
  | string | integer | decimal | boolean | reference => simp only [mapReferences, Function.comp]
  | call function args note ih =>
    simp only [mapReferences, mapReferencesOfAll_eq_map, List.map_map]
    exact congrArg (call function · note) (List.map_congr_left ih)

/-- Two changes are told apart by an expression only if they are by one of its references. -/
theorem mapReferences_eq_iff {expr : Expr α} :
    expr.mapReferences change = expr.mapReferences other ↔
      ∀ dependency, Reads expr dependency → change dependency = other dependency := by
  induction expr using induction_on_args with
  | string | integer | decimal | boolean =>
    simp only [mapReferences, true_iff]
    rintro _ ⟨⟩
  | reference field via note =>
    simp only [mapReferences, reads_reference_iff, forall_eq, reference.injEq, and_true]
    cases change ⟨field, via⟩
    cases other ⟨field, via⟩
    rw [Dependency.mk.injEq]
  | call function args note ih =>
    simp only [mapReferences, mapReferencesOfAll_eq_map, call.injEq, true_and, and_true,
      List.map_inj_left, reads_call_iff]
    constructor
    · rintro same dependency ⟨arg, member, reads⟩
      exact (ih arg member).1 (same arg member) dependency reads
    · intro same arg member
      exact (ih arg member).2 fun dependency reads => same dependency ⟨arg, member, reads⟩

theorem mapReferences_eq_self_iff {expr : Expr α} :
    expr.mapReferences change = expr ↔
      ∀ dependency, Reads expr dependency → change dependency = dependency := by
  have kept : expr.mapReferences (Dependency.rename id none) = expr := by
    rw [← rename_eq_mapReferences, rename_id]
  have same : expr.mapReferences change = expr.mapReferences (Dependency.rename id none) ↔ _ :=
    mapReferences_eq_iff
  simpa only [kept, rename_id_dependency] using same

theorem reads_mapReferences_iff {expr : Expr α} {dependency : Dependency} :
    Reads (expr.mapReferences change) dependency ↔
      ∃ origin, Reads expr origin ∧ change origin = dependency := by
  induction expr using induction_on_args with
  | string | integer | decimal | boolean =>
    rw [mapReferences]
    constructor
    · rintro ⟨⟩
    · rintro ⟨_, ⟨⟩, _⟩
  | reference field via note =>
    simp only [mapReferences, reads_reference_iff, exists_eq_left]
    exact eq_comm
  | call function args note ih =>
    simp only [mapReferences, mapReferencesOfAll_eq_map, reads_call_iff, List.mem_map,
      exists_exists_and_eq_and]
    constructor
    · rintro ⟨arg, member, inside⟩
      obtain ⟨origin, reads, same⟩ := (ih arg member).1 inside
      exact ⟨origin, ⟨arg, member, reads⟩, same⟩
    · rintro ⟨origin, ⟨arg, member, reads⟩, same⟩
      exact ⟨arg, member, (ih arg member).2 ⟨origin, reads, same⟩⟩

end FieldFormula.Expr
