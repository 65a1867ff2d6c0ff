import FieldFormula.Signature.Definition

/-! What arguments have to meet to pass the rules of a function: each of them the rule for its own
place, unless it could not be typed. -/

namespace FieldFormula.Definition

variable {definition : Definition}

theorem checkFrom_cons_eq_ok_iff {first : Option Ty} {start : Nat} {type : Ty} {types : List Ty} :
    definition.checkFrom first start (type :: types) = .ok () ↔
      (type.isError = true ∨ (definition.argRule start).check type first = .ok ()) ∧
        definition.checkFrom first (start + 1) types = .ok () := by
  rw [checkFrom]
  split
  · next error => simp [error]
  · next typed =>
    cases (definition.argRule start).check type first with
    | error expected => simp [typed]
    | ok passed => simp

theorem checkFrom_eq_ok_iff {first : Option Ty} {start : Nat} {types : List Ty} :
    definition.checkFrom first start types = .ok () ↔ ∀ index type, types[index]? = some type →
      type.isError = true ∨ (definition.argRule (start + index)).check type first = .ok () := by
  induction types generalizing start with
  | nil => simp [checkFrom]
  | cons head types ih =>
    rw [checkFrom_cons_eq_ok_iff, ih]
    constructor
    · rintro ⟨here, behind⟩ index type held
      cases index with
      | zero =>
        cases held
        exact here
      | succ index =>
        rw [← Nat.add_assoc, Nat.add_right_comm]
        exact behind index type held
    · intro each
      refine ⟨each 0 head rfl, fun index type held => ?_⟩
      rw [Nat.add_assoc, Nat.add_comm 1]
      exact each (index + 1) type held

theorem checkArgs_eq_ok_iff {types : List Ty} :
    definition.checkArgs types = .ok () ↔ ∀ index type, types[index]? = some type →
      type.isError = true ∨ (definition.argRule index).check type types.head? = .ok () := by
  rw [checkArgs, checkFrom_eq_ok_iff]
  simp only [Nat.zero_add]

/-- The rule for a place is one of those listed, or any single value will do. -/
theorem argRule_mem_or_any (definition : Definition) (index : Nat) :
    definition.argRule index ∈ definition.argRules ∨ definition.argRule index = .any := by
  unfold argRule
  cases listed : definition.argRules[index]? with
  | some rule => exact .inl (List.mem_of_getElem? listed)
  | none =>
    cases final : definition.argRules.getLast? with
    | some rule => exact .inl (List.mem_of_getLast? final)
    | none => exact .inr rfl

end FieldFormula.Definition
