import FieldFormula.Dependency
import FieldFormula.Expr
import FieldFormula.Registry

/-! What an expression refers to and calls. The expressions that are still to be visited are kept on
a stack, its top first, so trees of any depth can be walked. -/

namespace FieldFormula.Expr

variable {α : Type}

/-- Puts arguments on a stack one after the other, so the last one is on top. -/
def push (args pending : List (Expr α)) : List (Expr α) :=
  args.reverse ++ pending

theorem nodesOfAll_push (args pending : List (Expr α)) :
    nodesOfAll (push args pending) = nodesOfAll args + nodesOfAll pending := by
  rw [push, nodesOfAll_append, nodesOfAll_reverse]

/-- Adds the references of all pending expressions to those found. -/
def collectReferences (found : List Dependency) : List (Expr α) → List Dependency
  | [] => found
  | reference field via _ :: pending => collectReferences (insertSorted ⟨field, via⟩ found) pending
  | call _ args _ :: pending => collectReferences found (push args pending)
  | string .. :: pending | integer .. :: pending | decimal .. :: pending | boolean .. :: pending =>
    collectReferences found pending
termination_by pending => nodesOfAll pending
decreasing_by all_goals simp only [nodesOfAll, nodes, nodesOfAll_push]; omega

def dependencies (expr : Expr α) : List Dependency :=
  collectReferences [] [expr]

/-- Adds the names of the functions that pending expressions call to those found. -/
def collectFunctions (found : List String) : List (Expr α) → List String
  | [] => found
  | call function args _ :: pending =>
    collectFunctions (insertSorted function found) (push args pending)
  | reference .. :: pending | string .. :: pending | integer .. :: pending | decimal .. :: pending
  | boolean .. :: pending => collectFunctions found pending
termination_by pending => nodesOfAll pending
decreasing_by all_goals simp only [nodesOfAll, nodes, nodesOfAll_push]; omega

def functionsUsed (expr : Expr α) : List String :=
  collectFunctions [] [expr]

/-- Whether the result changes with time, because of a function that does. -/
def needsPeriodicUpdate (registry : Registry) (expr : Expr α) : Bool :=
  expr.functionsUsed.any fun name => (registry.get? name).any Definition.needsPeriodicUpdate

end FieldFormula.Expr
