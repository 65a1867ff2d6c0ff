import FieldFormula.Tree

/-! The budget that the parser needs for a tree. Going deeper takes one unit of it; the operators
that are folded onto one operand share a budget among themselves, because the parser counts them
without going deeper. -/

namespace FieldFormula.Tree

/-- The number of operators that are folded onto the leftmost operand of a tree. -/
def chained : Tree → Nat
  | binary _ left _ _ => left.chained + 1
  | _ => 0

mutual

/-- The least budget that the parser returns a tree with. -/
def demand : Tree → Nat
  | brackets inner _ => inner.demand + 1
  | negation operand _ => operand.demand + 1
  | binary _ left right _ => max left.demand (max (right.demand + 1) (left.chained + 2))
  | call _ args _ => demandUnder args
  | _ => 1

def demandUnder : List Tree → Nat
  | [] => 1
  | arg :: args => max (arg.demand + 1) (demandUnder args)

end

theorem demandUnder_pos (args : List Tree) : 0 < demandUnder args := by
  cases args with
  | nil => simp [demandUnder]
  | cons arg args => simp only [demandUnder]; omega

theorem demand_pos (tree : Tree) : 0 < tree.demand := by
  cases tree with
  | call name args => exact demandUnder_pos args
  | _ => simp only [demand]; omega

theorem chained_le_height (tree : Tree) : tree.chained ≤ tree.height := by
  induction tree using chained.induct with
  | case1 op left right position ih =>
    simp only [chained, height]
    omega
  | case2 tree other => simp [chained]

theorem chained_lt_demand (tree : Tree) : tree.chained < tree.demand := by
  cases tree with
  | binary op left right => simp only [chained, demand]; omega
  | _ => exact demand_pos _

mutual

/-- The budget is never short of the levels of a tree: what nests into a chain is no deeper than
where it ends up. -/
theorem demand_le_height : (tree : Tree) → tree.demand ≤ tree.height + 1
  | brackets inner _ => Nat.succ_le_succ inner.demand_le_height
  | negation operand _ => Nat.succ_le_succ operand.demand_le_height
  | binary _ left right _ => by
    have first := left.demand_le_height
    have second := right.demand_le_height
    have chain := left.chained_le_height
    simp only [demand, height]
    omega
  | call _ args _ => demandUnder_le_height args
  | string .. | integer .. | decimal .. | boolean .. | field .. | lookup .. | fieldById .. =>
    Nat.le_refl 1

theorem demandUnder_le_height : (args : List Tree) → demandUnder args ≤ heightUnder args + 1
  | [] => Nat.le_refl 1
  | arg :: args => by
    have first := arg.demand_le_height
    have others := demandUnder_le_height args
    simp only [demandUnder, heightUnder]
    omega

end

end FieldFormula.Tree
