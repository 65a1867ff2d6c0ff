import Mathlib.Data.Finset.Basic
import FieldFormula.Proofs.Expr.Check
import FieldFormula.Proofs.Expr.Collect

/-! The walks over pending expressions as sets that are defined by recursion. Arguments are visited
from the last to the first, but what is found does not depend on that: a set is collected, and it is
listed in one order. -/

namespace FieldFormula

/-- The order of dependencies: by field, and a field of the row itself before the same one behind a
link. -/
inductive Dependency.Precedes : Dependency → Dependency → Prop
  | field {first second : Dependency} (before : first.field < second.field) : Precedes first second
  | own {field via : String} : Precedes ⟨field, none⟩ ⟨field, some via⟩
  | link {field first second : String} (before : first < second) :
      Precedes ⟨field, some first⟩ ⟨field, some second⟩

theorem Dependency.precedes_of_lt : {first second : Dependency} → first < second →
    Precedes first second
  | _, _, .inl before => .field before
  | ⟨_, none⟩, ⟨_, some _⟩, .inr ⟨same, _⟩ => by
    cases same
    exact .own
  | ⟨_, some _⟩, ⟨_, some _⟩, .inr ⟨same, before⟩ => by
    cases same
    exact .link (of_decide_eq_true before)

namespace Expr

variable {α : Type}

mutual

/-- The references of an expression: its own, or those of all its arguments. -/
def references : Expr α → Finset Dependency
  | reference field via _ => {⟨field, via⟩}
  | call _ args _ => referencesOfAll args
  | string .. | integer .. | decimal .. | boolean .. => ∅

def referencesOfAll : List (Expr α) → Finset Dependency
  | [] => ∅
  | arg :: args => arg.references ∪ referencesOfAll args

end

mutual

/-- The functions that an expression calls: its own, and those of all its arguments. -/
def functions : Expr α → Finset String
  | call function args _ => {function} ∪ functionsOfAll args
  | reference .. | string .. | integer .. | decimal .. | boolean .. => ∅

def functionsOfAll : List (Expr α) → Finset String
  | [] => ∅
  | arg :: args => arg.functions ∪ functionsOfAll args

end

theorem mem_referencesOfAll {args : List (Expr α)} {dependency : Dependency} :
    dependency ∈ referencesOfAll args ↔ ∃ arg ∈ args, dependency ∈ arg.references := by
  induction args with
  | nil => simp [referencesOfAll]
  | cons arg args ih => rw [referencesOfAll, Finset.mem_union, ih, List.exists_mem_cons_iff]

theorem mem_functionsOfAll {args : List (Expr α)} {function : String} :
    function ∈ functionsOfAll args ↔ ∃ arg ∈ args, function ∈ arg.functions := by
  induction args with
  | nil => simp [functionsOfAll]
  | cons arg args ih => rw [functionsOfAll, Finset.mem_union, ih, List.exists_mem_cons_iff]

theorem mem_references {expr : Expr α} {dependency : Dependency} :
    dependency ∈ expr.references ↔ Reads expr dependency := by
  induction expr using induction_on_args with
  | string | integer | decimal | boolean =>
    rw [references]
    exact ⟨fun member => absurd member (Finset.notMem_empty _), nofun⟩
  | reference field via note => rw [references, Finset.mem_singleton, reads_reference_iff]
  | call function args note ih =>
    rw [references, mem_referencesOfAll, reads_call_iff]
    exact exists_congr fun arg => and_congr_right fun member => ih arg member

theorem mem_functions {expr : Expr α} {function : String} :
    function ∈ expr.functions ↔ Calls expr function := by
  induction expr using induction_on_args with
  | string | integer | decimal | boolean | reference =>
    rw [functions]
    exact ⟨fun member => absurd member (Finset.notMem_empty _), nofun⟩
  | call other args note ih =>
    rw [functions, Finset.mem_union, Finset.mem_singleton, mem_functionsOfAll, calls_call_iff]
    exact or_congr_right (exists_congr fun arg => and_congr_right fun member => ih arg member)

/-- Expressions that differ in the order of arguments, in any number of their calls. -/
inductive Rearranged : Expr α → Expr α → Prop
  | refl {expr : Expr α} : Rearranged expr expr
  | arguments {function : String} {args others : List (Expr α)} {note : α}
      (permuted : args.Perm others) :
      Rearranged (.call function args note) (.call function others note)
  | inside {function : String} {before behind : List (Expr α)} {arg other : Expr α} {note : α}
      (argument : Rearranged arg other) :
      Rearranged (.call function (before ++ arg :: behind) note)
        (.call function (before ++ other :: behind) note)
  | trans {first second third : Expr α} (one : Rearranged first second)
      (another : Rearranged second third) : Rearranged first third

/-- Which expressions are among the arguments decides over a call, not where they stand. -/
theorem Rearranged.references_eq {expr other : Expr α} (rearranged : Rearranged expr other) :
    expr.references = other.references := by
  induction rearranged with
  | refl => rfl
  | arguments permuted =>
    ext dependency
    simp only [references, mem_referencesOfAll, permuted.mem_iff]
  | inside _ ih =>
    ext dependency
    simp only [references, mem_referencesOfAll, List.mem_append, List.mem_cons, or_and_right,
      exists_or, exists_eq_left, ih]
  | trans _ _ one another => exact one.trans another

theorem Rearranged.functions_eq {expr other : Expr α} (rearranged : Rearranged expr other) :
    expr.functions = other.functions := by
  induction rearranged with
  | refl => rfl
  | arguments permuted =>
    ext function
    simp only [functions, Finset.mem_union, mem_functionsOfAll, permuted.mem_iff]
  | inside _ ih =>
    ext function
    simp only [functions, Finset.mem_union, mem_functionsOfAll, List.mem_append, List.mem_cons,
      or_and_right, exists_or, exists_eq_left, ih]
  | trans _ _ one another => exact one.trans another

theorem toFinset_dependencies (expr : Expr α) : expr.dependencies.toFinset = expr.references := by
  ext dependency
  rw [List.mem_toFinset, mem_dependencies, mem_references]

theorem toFinset_functionsUsed (expr : Expr α) : expr.functionsUsed.toFinset = expr.functions := by
  ext function
  rw [List.mem_toFinset, mem_functionsUsed, mem_functions]

/-- Expressions with the same references have the same dependencies, in the same order. -/
theorem dependencies_eq_of_references_eq {expr other : Expr α}
    (same : expr.references = other.references) : expr.dependencies = other.dependencies := by
  refine eq_of_mem_iff (pairwise_dependencies _) (pairwise_dependencies _) fun dependency => ?_
  rw [mem_dependencies, mem_dependencies, ← mem_references, ← mem_references, same]

theorem functionsUsed_eq_of_functions_eq {expr other : Expr α}
    (same : expr.functions = other.functions) : expr.functionsUsed = other.functionsUsed := by
  refine eq_of_mem_iff (pairwise_functionsUsed _) (pairwise_functionsUsed _) fun function => ?_
  rw [mem_functionsUsed, mem_functionsUsed, ← mem_functions, ← mem_functions, same]

/-- The walks find the sets that are defined by recursion, list every member once and in order, and
find the same in whatever order the arguments of calls stand. -/
theorem walks_collect_sets (expr : Expr α) :
    expr.dependencies.toFinset = expr.references ∧
    expr.functionsUsed.toFinset = expr.functions ∧
    (expr.dependencies.Pairwise Dependency.Precedes ∧ expr.dependencies.Nodup) ∧
    (expr.functionsUsed.Pairwise (· < ·) ∧ expr.functionsUsed.Nodup) ∧
    ∀ other, Rearranged expr other →
      (other.references = expr.references ∧ other.functions = expr.functions) ∧
      other.dependencies = expr.dependencies ∧ other.functionsUsed = expr.functionsUsed := by
  have inOrder := pairwise_dependencies expr
  have namesInOrder := pairwise_functionsUsed expr
  refine ⟨toFinset_dependencies expr, toFinset_functionsUsed expr, ⟨?_, inOrder.nodup⟩,
    ⟨namesInOrder, namesInOrder.nodup⟩, ?_⟩
  · exact inOrder.imp Dependency.precedes_of_lt
  · intro other rearranged
    have references := rearranged.references_eq.symm
    have functions := rearranged.functions_eq.symm
    exact ⟨⟨references, functions⟩, dependencies_eq_of_references_eq references,
      functionsUsed_eq_of_functions_eq functions⟩

/-- A field is read directly, and behind two links: a call of `add` inside of another one has its
arguments exchanged, and so has the outer one. -/
theorem walks_collect_sets_of_exchange :
    ∃ own first second : Expr Unit, own = .reference "b" none () ∧
      first = .reference "b" (some "a") () ∧ second = .reference "b" (some "c") () ∧
      (Expr.call "max" [own, .call "add" [first, second] ()] ()).dependencies =
        [⟨"b", none⟩, ⟨"b", some "a"⟩, ⟨"b", some "c"⟩] ∧
      (Expr.call "max" [.call "add" [second, first] (), own] ()).dependencies =
        (Expr.call "max" [own, .call "add" [first, second] ()] ()).dependencies ∧
      (Expr.call "max" [.call "add" [second, first] (), own] ()).functionsUsed =
        (Expr.call "max" [own, .call "add" [first, second] ()] ()).functionsUsed := by
  let own : Expr Unit := .reference "b" none ()
  let first : Expr Unit := .reference "b" (some "a") ()
  let second : Expr Unit := .reference "b" (some "c") ()
  have inner : Rearranged (.call "add" [first, second] ()) (.call "add" [second, first] ()) :=
    .arguments (.swap second first [])
  have outer : Rearranged (.call "max" [own, .call "add" [first, second] ()] ())
      (.call "max" [.call "add" [second, first] (), own] ()) :=
    .trans (@Rearranged.inside _ "max" [own] [] _ _ () inner) (.arguments (.swap _ own []))
  obtain ⟨_, dependencies, functions⟩ := (walks_collect_sets _).2.2.2.2 _ outer
  refine ⟨own, first, second, rfl, rfl, rfl, ?_, dependencies, functions⟩
  decide +kernel

end Expr

end FieldFormula
