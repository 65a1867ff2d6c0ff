import Mathlib.Data.List.Basic
import FieldFormula.Expr.Collect
import FieldFormula.Proofs.Sorted

/-! What the walks over pending expressions collect: the references of the expression and the
functions that it calls, each once and in order. -/

namespace FieldFormula.Expr

variable {α : Type}

inductive Reads : Expr α → Dependency → Prop
  | reference {field : String} {via : Option String} {note : α} :
      Reads (.reference field via note) ⟨field, via⟩
  | argument {function : String} {args : List (Expr α)} {note : α} {arg : Expr α}
      {dependency : Dependency} (member : arg ∈ args) (inside : Reads arg dependency) :
      Reads (.call function args note) dependency

inductive Calls : Expr α → String → Prop
  | call {function : String} {args : List (Expr α)} {note : α} :
      Calls (.call function args note) function
  | argument {other function : String} {args : List (Expr α)} {note : α} {arg : Expr α}
      (member : arg ∈ args) (inside : Calls arg function) : Calls (.call other args note) function

theorem reads_reference_iff {field : String} {via : Option String} {note : α}
    {dependency : Dependency} :
    Reads (.reference field via note) dependency ↔ dependency = ⟨field, via⟩ := by
  constructor
  · rintro ⟨⟩
    rfl
  · rintro rfl
    exact .reference

theorem reads_call_iff {function : String} {args : List (Expr α)} {note : α}
    {dependency : Dependency} :
    Reads (.call function args note) dependency ↔ ∃ arg ∈ args, Reads arg dependency := by
  constructor
  · rintro ⟨⟩
    exact ⟨_, ‹_›, ‹_›⟩
  · rintro ⟨arg, member, inside⟩
    exact .argument member inside

/-- Nothing is lost on the way: each step of the walk moves references from what is pending to what
is found, or unfolds a call into its arguments. -/
theorem mem_collectReferences {dependency : Dependency} (found : List Dependency)
    (pending : List (Expr α)) :
    dependency ∈ collectReferences found pending ↔
      dependency ∈ found ∨ ∃ expr ∈ pending, Reads expr dependency := by
  fun_induction collectReferences found pending with
  | case1 => simp
  | case2 found field via note pending ih =>
    rw [ih, mem_insertSorted, List.exists_mem_cons_iff, reads_reference_iff, or_assoc, or_left_comm]
  | case3 found function args note pending ih =>
    rw [ih, List.exists_mem_cons_iff, reads_call_iff]
    simp only [push, List.mem_append, List.mem_reverse, or_and_right, exists_or]
  | case4 found value note pending ih | case5 found value note pending ih
  | case6 found value note pending ih | case7 found value note pending ih =>
    rw [ih, List.exists_mem_cons_iff]
    refine or_congr_right (or_iff_right ?_).symm
    rintro ⟨⟩

theorem mem_dependencies {expr : Expr α} {dependency : Dependency} :
    dependency ∈ expr.dependencies ↔ Reads expr dependency := by
  simp [dependencies, mem_collectReferences]

theorem pairwise_collectReferences (found : List Dependency) (pending : List (Expr α))
    (sorted : found.Pairwise (· < ·)) : (collectReferences found pending).Pairwise (· < ·) := by
  fun_induction collectReferences found pending with
  | case1 => exact sorted
  | case2 found field via note pending ih => exact ih (pairwise_insertSorted sorted)
  | case3 found function args note pending ih => exact ih sorted
  | case4 found value note pending ih | case5 found value note pending ih
  | case6 found value note pending ih | case7 found value note pending ih => exact ih sorted

theorem pairwise_dependencies (expr : Expr α) : expr.dependencies.Pairwise (· < ·) :=
  pairwise_collectReferences [] [expr] .nil

theorem calls_call_iff {other function : String} {args : List (Expr α)} {note : α} :
    Calls (.call other args note) function ↔ function = other ∨ ∃ arg ∈ args, Calls arg function := by
  constructor
  · rintro (_ | ⟨member, inside⟩)
    · exact .inl rfl
    · exact .inr ⟨_, member, inside⟩
  · rintro (rfl | ⟨arg, member, inside⟩)
    · exact .call
    · exact .argument member inside

/-- A call is found and unfolded in one step; nothing else calls a function by itself. -/
theorem mem_collectFunctions {function : String} (found : List String) (pending : List (Expr α)) :
    function ∈ collectFunctions found pending ↔
      function ∈ found ∨ ∃ expr ∈ pending, Calls expr function := by
  fun_induction collectFunctions found pending with
  | case1 => simp
  | case2 found other args note pending ih =>
    rw [ih, mem_insertSorted, List.exists_mem_cons_iff, calls_call_iff]
    simp only [push, List.mem_append, List.mem_reverse, or_and_right, exists_or, or_assoc,
      or_left_comm]
  | case3 found field via note pending ih =>
    rw [ih, List.exists_mem_cons_iff]
    refine or_congr_right (or_iff_right ?_).symm
    rintro ⟨⟩
  | case4 found value note pending ih | case5 found value note pending ih
  | case6 found value note pending ih | case7 found value note pending ih =>
    rw [ih, List.exists_mem_cons_iff]
    refine or_congr_right (or_iff_right ?_).symm
    rintro ⟨⟩

theorem mem_functionsUsed {expr : Expr α} {function : String} :
    function ∈ expr.functionsUsed ↔ Calls expr function := by
  simp [functionsUsed, mem_collectFunctions]

theorem pairwise_collectFunctions (found : List String) (pending : List (Expr α))
    (sorted : found.Pairwise (· < ·)) : (collectFunctions found pending).Pairwise (· < ·) := by
  fun_induction collectFunctions found pending with
  | case1 => exact sorted
  | case2 found function args note pending ih => exact ih (pairwise_insertSorted sorted)
  | case3 found field via note pending ih => exact ih sorted
  | case4 found value note pending ih | case5 found value note pending ih
  | case6 found value note pending ih | case7 found value note pending ih => exact ih sorted

theorem pairwise_functionsUsed (expr : Expr α) : expr.functionsUsed.Pairwise (· < ·) :=
  pairwise_collectFunctions [] [expr] .nil

theorem needsPeriodicUpdate_eq_true_iff {registry : Registry} {expr : Expr α} :
    expr.needsPeriodicUpdate registry = true ↔
      ∃ function definition, Calls expr function ∧ registry.get? function = some definition ∧
        definition.needsPeriodicUpdate = true := by
  simp [needsPeriodicUpdate, mem_functionsUsed, Option.any_eq_true]

end FieldFormula.Expr
