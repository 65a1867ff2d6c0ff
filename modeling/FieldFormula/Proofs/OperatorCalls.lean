import FieldFormula.Proofs.Depth
import FieldFormula.Proofs.Enclosed
import FieldFormula.Proofs.Layout

/-! An operator between two formulas is another way to write a call of its function. A formula keeps
its tree inside of brackets but for places, and these are not built into expressions; the trees of
both notations have the formulas on the same level, so the limit on nesting treats them alike. -/

namespace FieldFormula

namespace Aspect

variable (aspect : Aspect)

mutual

theorem height_tree : (tree : Tree) → (aspect.tree tree).height = tree.height
  | .string .. | .integer .. | .decimal .. | .boolean .. | .field .. | .lookup .. | .fieldById .. =>
    rfl
  | .brackets inner _ => by rw [tree, Tree.height, Tree.height, height_tree inner]
  | .negation operand _ => by rw [tree, Tree.height, Tree.height, height_tree operand]
  | .binary _ left right _ => by
    rw [tree, Tree.height, Tree.height, height_tree left, height_tree right]
  | .call _ args _ => by rw [tree, Tree.height, Tree.height, heightUnder_trees args]

theorem heightUnder_trees : (trees : List Tree) →
    Tree.heightUnder (aspect.trees trees) = Tree.heightUnder trees
  | [] => rfl
  | first :: others => by
    rw [trees, Tree.heightUnder, Tree.heightUnder, height_tree first, heightUnder_trees others]

end

theorem tokens_keeps (registry : Registry) : Aspect.tokens.KeepsFunctions registry :=
  ⟨fun _ => rfl, fun _ => rfl⟩

end Aspect

/-- Trees of the same tokens are built to the same expression. -/
theorem Expr.buildAt_of_tokens {registry : Registry} {limits : Limits} {depth : Nat}
    {tree other : Tree} {expr : Expr Unit}
    (same : Aspect.tokens.tree other = Aspect.tokens.tree tree)
    (built : buildAt registry limits depth tree = .ok expr) :
    buildAt registry limits depth other = .ok expr := by
  have unplaces (tree : Tree) : Unplaces (buildAt registry limits depth tree)
      (buildAt registry limits depth (Aspect.tokens.tree tree)) :=
    buildAt_unplaces (Aspect.tokens_keeps registry) depth tree
  rw [← (unplaces other).eq_ok_iff, same, (unplaces tree).eq_ok_iff]
  exact built

/-- A source in brackets. The line end closes a comment that the source may end in. -/
def bracketed (source : String) : String :=
  "(" ++ source ++ "\n)"

def Operator.between (op : Operator) (first second : String) : String :=
  bracketed first ++ " " ++ op.lexeme ++ " " ++ bracketed second

def calling (function first second : String) : String :=
  function ++ "(" ++ bracketed first ++ "," ++ bracketed second ++ ")"

/-- Lexemes of brackets around a tree that has some height and is built to an expression. -/
inductive Encloses (registry : Registry) (limits : Limits) (depth height : Nat) (expr : Expr Unit) :
    List Lexeme → Prop
  | intro {lexemes : List Lexeme} {inner : Tree} {position : Position}
      (primary : Grammar.Primary lexemes (.brackets inner position)) (high : inner.height = height)
      (built : Expr.Builds registry limits depth inner expr) :
      Encloses registry limits depth height expr lexemes

/-- Lexemes of a formula whose tree has some height and is built to an expression. -/
inductive Forms (registry : Registry) (limits : Limits) (height : Nat) (expr : Expr Unit) :
    List Lexeme → Prop
  | intro {lexemes : List Lexeme} {tree : Tree} (derived : Grammar.Expression 0 lexemes tree)
      (high : tree.height = height) (built : Expr.Builds registry limits 0 tree expr) :
      Forms registry limits height expr lexemes

namespace Encloses

variable {registry : Registry} {limits : Limits} {depth height other : Nat}
  {expr left right : Expr Unit} {lexemes others : List Lexeme} {function : String}
  {definition : Definition}

theorem ne_nil (encloses : Encloses registry limits depth height expr lexemes) : lexemes ≠ [] := by
  obtain ⟨primary, _, _⟩ := encloses
  cases primary
  exact List.cons_ne_nil _ _

section Pair

variable (first : Encloses registry limits 2 height left lexemes)
  (second : Encloses registry limits 2 other right others)
  (resolved : Expr.resolveFunction registry function 2 = .ok definition)

include first second resolved

theorem joined {op : Operator} {sign : Lexeme} (stands : op.function? = some function)
    (spelled : sign.token = .operator op) :
    Forms registry limits (max height other + 2) (.call definition.name [left, right] ())
      (lexemes ++ sign :: others) := by
  obtain ⟨leftPrimary, rfl, leftBuilt⟩ := first
  obtain ⟨rightPrimary, rfl, rightBuilt⟩ := second
  have within := leftBuilt.within
  have tighter : op.precedence + 1 ≤ 6 := Grammar.precedence_lt op
  have derived := Grammar.Expression.join
    ((Grammar.Expression.operand (.primary leftPrimary)).loosen (Nat.le_of_succ_le tighter)) spelled
    (Grammar.mem_operatorsAt_iff.2 rfl)
    ((Grammar.Expression.operand (.primary rightPrimary)).loosen tighter)
  refine .intro (derived.loosen (Nat.zero_le _)) ?_ ?_
  · simp only [Tree.height, Nat.add_max_add_right]
  · exact .binary (Nat.zero_le _) stands resolved (.brackets (by omega) leftBuilt)
      (.brackets (by omega) rightBuilt)

theorem called {name opening comma closing : Lexeme} (named : name.token = .identifier function)
    (opens : opening.token = .openBracket) (separated : comma.token = .comma)
    (closes : closing.token = .closeBracket) :
    Forms registry limits (max height other + 2) (.call definition.name [left, right] ())
      (name :: opening :: (lexemes ++ comma :: others ++ [closing])) := by
  obtain ⟨leftPrimary, rfl, leftBuilt⟩ := first
  obtain ⟨rightPrimary, rfl, rightBuilt⟩ := second
  have within := leftBuilt.within
  have whole {lexemes : List Lexeme} {tree : Tree} (primary : Grammar.Primary lexemes tree) :
      Grammar.Expression 0 lexemes tree :=
    (Grammar.Expression.operand (.primary primary)).loosen (Nat.zero_le _)
  have derived := whole (.call named opens
    (.more (whole leftPrimary) separated (.last (whole rightPrimary))) closes)
  refine .intro derived ?_ ?_
  · simp only [Tree.height, Tree.heightUnder, Nat.max_zero, Nat.add_max_add_right]
  · exact .call (Nat.zero_le _) resolved (.cons (.brackets (by omega) leftBuilt)
      (.cons (.brackets (by omega) rightBuilt) .nil))

end Pair

end Encloses

namespace Scanner

open Token

variable {registry : Registry} {limits : Limits} {first second function : String}
  {height other : Nat} {left right : Expr Unit} {definition : Definition}

/-- A source that is read to an expression is read to it inside of brackets, if there is room for
them. -/
theorem yields_enclosed {source : String} {tree : Tree} {expr : Expr Unit} {most depth : Nat}
    (parsed : Tree.parse limits source = .ok tree)
    (built : Expr.build registry limits tree = .ok expr) (room : depth + tree.height ≤ most)
    (after : List Char) :
    Yields (bracketed source).toList after
      (Encloses registry { limits with maxDepth := most } depth tree.height expr) := by
  obtain ⟨lexemes, final, fed, ended, derived⟩ := Tree.parse_sound parsed
  have deeper : Expr.buildAt registry { limits with maxDepth := most } depth tree = .ok expr := by
    rw [(Expr.builds_of_buildAt tree built).buildAt_eq, Expr.cutOff, if_pos room]
  have text : (bracketed source).toList = ['('] ++ (source.toList ++ ['\n', ')']) := by
    simp [bracketed]
  have inside := (yields_symbol '(' .openBracket (by decide)).append (yields_closed fed ended after)
  rw [text]
  refine inside.mono ?_
  rintro _ ⟨⟨opens⟩, ⟨same, ⟨closes⟩⟩⟩
  obtain ⟨inner, derivedInner, sameTree⟩ := derived.of_tokens same
  refine .intro (.brackets opens derivedInner closes) ?_ ?_
  · rw [← Aspect.tokens.height_tree inner, sameTree, Aspect.height_tree]
  · exact Expr.builds_of_buildAt inner (Expr.buildAt_of_tokens sameTree deeper)

section Pair

variable
  (firstYields : ∀ after, Yields (bracketed first).toList after
    (Encloses registry limits 2 height left))
  (secondYields : ∀ after, Yields (bracketed second).toList after
    (Encloses registry limits 2 other right))
  (resolved : Expr.resolveFunction registry function 2 = .ok definition)

include firstYields secondYields resolved

theorem yields_between {op : Operator} (stands : op.function? = some function) :
    Yields (op.between first second).toList []
      (Forms registry limits (max height other + 2)
        (.call definition.name [left, right] ())) := by
  have blank : ∀ c ∈ [' '], Text.isWhitespace c = true :=
    List.forall_mem_singleton.2 (by decide)
  have listed : (op.lexeme.toList, .operator op) ∈ symbols :=
    List.mem_append_right _ (List.mem_map.2 ⟨op, op.mem_all, rfl⟩)
  have edge : Edge (([' '] ++ (bracketed second).toList) ++ []) := by
    rintro _ ⟨⟩
    decide
  have sign : Yields ([' '] ++ op.lexeme.toList) (([' '] ++ (bracketed second).toList) ++ [])
      (Single (.operator op)) :=
    .blanks blank (by rintro _ ⟨⟩; exact List.cons_ne_nil _ _)
      (.of_spells (spells_symbol listed edge) (by simp))
  have behind : Yields ([' '] ++ (bracketed second).toList) []
      (Encloses registry limits 2 other right) :=
    .blanks blank Encloses.ne_nil (secondYields _)
  have text : (op.between first second).toList = (bracketed first).toList ++
      (([' '] ++ op.lexeme.toList) ++ ([' '] ++ (bracketed second).toList)) := by
    simp [Operator.between]
  rw [text]
  refine ((firstYields _).append (sign.append behind)).mono ?_
  rintro _ ⟨before, ⟨⟨spelled⟩, after⟩⟩
  exact before.joined after resolved stands spelled

theorem yields_calling (valid : isIdentifier function.toList = true)
    (named : ofName function.toList = .identifier function) :
    Yields (calling function first second).toList []
      (Forms registry limits (max height other + 2)
        (.call definition.name [left, right] ())) := by
  have args : Yields ((bracketed first).toList ++ ([','] ++ (bracketed second).toList)) [')']
      (Then (Encloses registry limits 2 height left)
        (Then (Single .comma) (Encloses registry limits 2 other right))) :=
    (firstYields _).append ((yields_symbol ',' .comma (by decide)).append (secondYields _))
  have text : (calling function first second).toList = function.toList ++ (['('] ++
      ((bracketed first).toList ++ ([','] ++ (bracketed second).toList) ++ ([] ++ [')']))) := by
    simp [calling]
  rw [text]
  refine yields_bracketed _ valid named (by simp) (by simp) args ?_
  rintro name opening closing _ spelled opens ⟨before, ⟨⟨separated⟩, after⟩⟩ closes
  exact before.called after resolved spelled opens separated closes

end Pair

end Scanner

/-- A function that an operator stands for is registered under its own name. -/
theorem Registry.name_of_operator {registry : Registry} {op : Operator} {function : String}
    {definition : Definition} (stands : op.function? = some function)
    (found : registry.get? function = some definition) : definition.name = function := by
  have lower : Text.lowercase function = function := by
    cases op <;> cases stands <;> decide
  rcases get?_eq_some found with held | held
  · exact (eq_name_of_functions_get? held).symm
  · rw [lower] at held
    exact (eq_name_of_functions_get? held).symm

namespace Compiler

theorem read_of_yields {registry : Registry} {limits : Limits} {height : Nat} {expr : Expr Unit}
    {source : String} (most : Nat)
    (yields : Scanner.Yields source.toList [] (Forms registry limits height expr)) :
    Compiler.read ⟨registry, { limits with maxDepth := most }⟩ source =
      Expr.cutOff most height expr := by
  obtain ⟨lexemes, final, fed, ended, ⟨derived, rfl, built⟩⟩ := yields.ofSource_eq
  exact read_of_derived most fed ended derived built

/-- An operator between two formulas is read like a call of its function with them: to the call of
the function with what they are read to, or as too large. Both take two levels more than the higher
one of the formulas. -/
theorem read_between_eq_read_calling (compiler : Compiler) (op : Operator) (function : String)
    (definition : Definition) (stands : op.function? = some function)
    (found : compiler.registry.get? function = some definition)
    (accepts : definition.argCount.accepts 2 = true) (first second : String)
    (left right : Expr Unit) (firstRead : compiler.read first = .ok left)
    (secondRead : compiler.read second = .ok right) :
    compiler.read (op.between first second) = compiler.read (calling function first second) ∧
    ∃ firstTree secondTree, compiler.parse first = .ok firstTree ∧
      compiler.parse second = .ok secondTree ∧
      (max firstTree.height secondTree.height + 2 ≤ compiler.limits.maxDepth →
        compiler.read (calling function first second) = .ok (.call function [left, right] ())) ∧
      (compiler.limits.maxDepth < max firstTree.height secondTree.height + 2 →
        compiler.read (calling function first second) = .error .tooLarge) := by
  obtain ⟨firstTree, firstParsed, firstBuilt⟩ := read_eq_ok_iff.1 firstRead
  obtain ⟨secondTree, secondParsed, secondBuilt⟩ := read_eq_ok_iff.1 secondRead
  have resolved : Expr.resolveFunction compiler.registry function 2 = .ok definition :=
    Expr.resolveFunction_eq_ok_iff.2 ⟨found, accepts⟩
  have valid : Token.isIdentifier function.toList = true := by
    cases op <;> cases stands <;> decide
  -- Both notations are taken apart where there is room for them; the limit is looked at only then.
  let most := max firstTree.height secondTree.height + 2
  have firstYields := Scanner.yields_enclosed firstParsed firstBuilt (by omega : 2 + _ ≤ most)
  have secondYields := Scanner.yields_enclosed secondParsed secondBuilt (by omega : 2 + _ ≤ most)
  have between := read_of_yields compiler.limits.maxDepth
    (Scanner.yields_between firstYields secondYields resolved stands)
  have called := read_of_yields compiler.limits.maxDepth
    (Scanner.yields_calling firstYields secondYields resolved valid (Token.ofName_function stands))
  rw [Registry.name_of_operator stands found] at between called
  refine ⟨between.trans called.symm, firstTree, secondTree, firstParsed, secondParsed, ?_, ?_⟩
  · intro fits
    exact called.trans (if_pos fits)
  · intro exceeds
    exact called.trans (if_neg (Nat.not_le.2 exceeds))

/-- A comment at the end of a formula does not swallow the bracket behind it, and two levels are
needed. -/
theorem read_between_eq_read_calling_of_comment :
    ∃ registry : Registry,
      Compiler.read ⟨registry, 2, 0⟩ "(1//x\n) - (2\n)" =
        .ok (.call "minus" [.integer 1 (), .integer 2 ()] ()) ∧
      Compiler.read ⟨registry, 1, 0⟩ "(1//x\n) - (2\n)" = .error .tooLarge := by
  let registry := Registry.ofDefinitions [.ofName "minus" (.exactly 2) (.fixed .untyped)]
  have found : registry.get? "minus" = some (.ofName "minus" (.exactly 2) (.fixed .untyped)) := rfl
  have parsed : ∀ most ∈ [1, 2],
      Compiler.parse ⟨registry, most, 0⟩ "1//x" = .ok (.integer "1" ⟨1, 0⟩) ∧
      Compiler.parse ⟨registry, most, 0⟩ "2" = .ok (.integer "2" ⟨1, 0⟩) := by decide +kernel
  have read : ∀ most ∈ [1, 2], Compiler.read ⟨registry, most, 0⟩ "1//x" = .ok (.integer 1 ()) ∧
      Compiler.read ⟨registry, most, 0⟩ "2" = .ok (.integer 2 ()) := by decide +kernel
  have written : Operator.between .subtract "1//x" "2" = "(1//x\n) - (2\n)" := by decide
  refine ⟨registry, ?_, ?_⟩
  · have known := parsed 2 (by simp)
    have readable := read 2 (by simp)
    obtain ⟨same, _, _, firstParsed, secondParsed, fits, _⟩ := read_between_eq_read_calling
      ⟨registry, 2, 0⟩ .subtract "minus" _ rfl found rfl _ _ _ _ readable.1 readable.2
    cases known.1.symm.trans firstParsed
    cases known.2.symm.trans secondParsed
    rw [← written, same, fits (by decide)]
  · have known := parsed 1 (by simp)
    have readable := read 1 (by simp)
    obtain ⟨same, _, _, firstParsed, secondParsed, _, exceeds⟩ := read_between_eq_read_calling
      ⟨registry, 1, 0⟩ .subtract "minus" _ rfl found rfl _ _ _ _ readable.1 readable.2
    cases known.1.symm.trans firstParsed
    cases known.2.symm.trans secondParsed
    rw [← written, same, exceeds (by decide)]

end Compiler

end FieldFormula
