import Mathlib.Tactic.Ring
import FieldFormula.Proofs.Catalogue
import FieldFormula.Proofs.Depth
import FieldFormula.Proofs.Expr.Print

/-! How high the trees are that the parser returns. The limit on nesting bounds each chain of
operators by itself, and the leftmost operand of a chain may be nested as if there were no chain
above it. So the levels grow with the square of the limit, and only the builder keeps trees within
it. -/

namespace FieldFormula

namespace Tree

/-- The most levels of an operand under a limit. Its part may be nested one level less and is the
first operand of as many operators as that. -/
def operandHeight : Nat → Nat
  | 0 => 0
  | most + 1 => operandHeight most + most + 1

theorem two_mul_operandHeight (most : Nat) : 2 * operandHeight most = most * (most + 1) := by
  induction most with
  | zero => rfl
  | succ most ih =>
    rw [operandHeight, Nat.mul_add, Nat.mul_add, ih]
    ring

/-- A chain puts one level on top of its operands for each of its operators. -/
theorem operandHeight_add (most : Nat) : operandHeight most + most = most * (most + 3) / 2 := by
  have twice : most * (most + 3) = 2 * (operandHeight most + most) := by
    rw [Nat.mul_add 2, two_mul_operandHeight]
    ring
  rw [twice, Nat.mul_div_cancel_left _ Nat.two_pos]

/-- What is nested one level deeper has room for one operator less. -/
theorem succ_height_le {tree : Tree} {most : Nat}
    (bounded : ∀ {most}, tree.demand ≤ most + 1 → tree.height ≤ operandHeight most + tree.chained)
    (fits : tree.demand + 1 ≤ most + 1) : tree.height + 1 ≤ operandHeight most := by
  have positive := tree.demand_pos
  have shorter := tree.chained_lt_demand
  cases most with
  | zero => omega
  | succ most =>
    have inner := bounded (Nat.le_of_succ_le_succ fits)
    rw [operandHeight]
    omega

mutual

/-- The operators of a chain are counted apart from the levels of its operands. -/
theorem height_le_of_demand : (tree : Tree) → {most : Nat} → tree.demand ≤ most + 1 →
    tree.height ≤ operandHeight most + tree.chained
  | brackets inner _, most, fits =>
    succ_height_le (fun fits => inner.height_le_of_demand fits) fits
  | negation operand _, most, fits =>
    succ_height_le (fun fits => operand.height_le_of_demand fits) fits
  | binary _ left right _, most, fits => by
    simp only [demand, Nat.max_le] at fits
    have first := left.height_le_of_demand fits.1
    have second := succ_height_le (fun fits => right.height_le_of_demand fits) fits.2.1
    simp only [height, chained]
    omega
  | call _ args _, most, fits => heightUnder_le_of_demand args fits
  | string .., _, _ | integer .., _, _ | decimal .., _, _ | boolean .., _, _ | field .., _, _
  | lookup .., _, _ | fieldById .., _, _ => Nat.zero_le _

theorem heightUnder_le_of_demand : (args : List Tree) → {most : Nat} →
    demandUnder args ≤ most + 1 → heightUnder args ≤ operandHeight most
  | [], _, _ => Nat.zero_le _
  | arg :: args, most, fits => by
    simp only [demandUnder, Nat.max_le] at fits
    have first := succ_height_le (fun fits => arg.height_le_of_demand fits) fits.1
    have others := heightUnder_le_of_demand args fits.2
    simp only [heightUnder, Nat.max_le]
    exact ⟨first, others⟩

end

/-- The parser returns no higher tree than the limit has room for. -/
theorem height_le_of_parse {limits : Limits} {source : String} {tree : Tree}
    (parsed : Tree.parse limits source = .ok tree) :
    tree.height ≤ operandHeight limits.maxDepth + limits.maxDepth := by
  obtain ⟨lexemes, final, fed, ended, derived⟩ := Tree.parse_sound parsed
  rw [Tree.parse_complete limits fed ended derived] at parsed
  split at parsed
  · next fits =>
    have levels := tree.height_le_of_demand fits
    have shorter := tree.chained_lt_demand
    omega
  · cases parsed

end Tree

def steepNumeral : String := String.ofList ['1']

/-- A source that climbs as high as a limit lets it: an operand in brackets that does the same with
one level less, and as many operators behind it as there are levels. -/
def steep : Nat → List Char
  | 0 => ['1']
  | most + 1 => ['('] ++ (steep most ++ [')']) ++ (List.replicate (most + 1) ['-', '1']).flatten

/-- Lexemes of a tree that a limit has room for: a chain of operators on top of an operand that is
as high as it can be. The tree is built wherever there is room for its levels. -/
inductive Climbs (most operators : Nat) : List Lexeme → Prop
  | intro {lexemes : List Lexeme} {tree : Tree} {expr : Expr Unit}
      (derived : Grammar.Expression 4 lexemes tree) (fits : tree.demand ≤ most + 1)
      (counted : tree.chained = operators)
      (high : tree.height = Tree.operandHeight most + operators)
      (built : ∀ {limits : Limits} {depth : Nat}, depth + tree.height ≤ limits.maxDepth →
        Expr.Builds .standard limits depth tree expr) : Climbs most operators lexemes

namespace Climbs

variable {most operators : Nat} {lexemes : List Lexeme} {numeral : Lexeme}

theorem operand_one (spelled : numeral.token = .integer steepNumeral) :
    Grammar.Operand [numeral] (.integer steepNumeral numeral.position) :=
  .primary (.integer spelled)

theorem builds_one {limits : Limits} {depth : Nat} (within : depth ≤ limits.maxDepth)
    (position : Position) :
    Expr.Builds .standard limits depth (.integer steepNumeral position) (.integer 1 ()) :=
  .integer within rfl

theorem leaf (spelled : numeral.token = .integer steepNumeral) : Climbs 0 0 [numeral] :=
  .intro ((Grammar.Expression.operand (operand_one spelled)).loosen (by decide)) (Nat.le_refl 1)
    rfl rfl fun within => builds_one within numeral.position

/-- Brackets start a new chain, one level further out. -/
theorem brackets {opening closing : Lexeme} (climbs : Climbs most most lexemes)
    (opens : opening.token = .openBracket) (closes : closing.token = .closeBracket) :
    Climbs (most + 1) 0 (opening :: (lexemes ++ [closing])) := by
  obtain @⟨inner, expr, derived, fits, _, high, built⟩ := climbs
  have primary := Grammar.Primary.brackets opens (derived.loosen (Nat.zero_le _)) closes
  have higher : (Tree.brackets inner opening.position).height =
      Tree.operandHeight (most + 1) + 0 := by
    rw [Tree.height, high, Tree.operandHeight]
  have outside {limits : Limits} {depth : Nat}
      (within : depth + (Tree.brackets inner opening.position).height ≤ limits.maxDepth) :
      Expr.Builds .standard limits depth (.brackets inner opening.position) expr := by
    rw [Tree.height] at within
    exact .brackets (by omega) (built (by omega))
  exact .intro ((Grammar.Expression.operand (.primary primary)).loosen (by decide))
    (Nat.succ_le_succ fits) rfl higher outside

/-- One more operator is one more level, and needs no more room as long as the chain is short. -/
theorem minus {sign : Lexeme} (climbs : Climbs most operators lexemes) (shorter : operators < most)
    (spelled : sign.token = .operator .subtract)
    (one_spelled : numeral.token = .integer steepNumeral) :
    Climbs most (operators + 1) (lexemes ++ [sign, numeral]) := by
  obtain @⟨left, expr, derived, fits, rfl, high, built⟩ := climbs
  have right := (Grammar.Expression.operand (operand_one one_spelled)).loosen (by decide : 5 ≤ 6)
  have resolved : Expr.resolveFunction .standard "minus" 2 = .ok Catalogue.operators[1] :=
    Expr.resolveFunction_eq_ok_iff.2
      ⟨Catalogue.get?_standard_of_mem (by simp [Catalogue.definitions]) (by decide), rfl⟩
  let tree := Tree.binary .subtract left (.integer steepNumeral numeral.position) sign.position
  have higher : tree.height = Tree.operandHeight most + (left.chained + 1) := by
    simp only [tree, Tree.height, high]
    omega
  have roomy : tree.demand ≤ most + 1 := by
    simp only [tree, Tree.demand, Nat.max_le]
    omega
  have outside {limits : Limits} {depth : Nat} (within : depth + tree.height ≤ limits.maxDepth) :
      Expr.Builds .standard limits depth tree
        (.call Catalogue.operators[1].name [expr, .integer 1 ()] ()) := by
    simp only [tree, Tree.height] at within
    exact .binary (by omega) rfl resolved (built (by omega)) (builds_one (by omega) _)
  exact .intro (derived.join spelled (by decide) right) roomy rfl higher outside

end Climbs

namespace Scanner

open Token

theorem yields_one {after : List Char} (boundary : Boundary after) :
    Yields ['1'] after (Single (.integer steepNumeral)) :=
  .of_spells (spells_integer (by decide) boundary) nofun

/-- Operators are put behind an operand one by one, as many as the limit has room for. -/
theorem yields_chain {most : Nat} {text : List Char}
    (operand : ∀ after, Boundary after → Yields text after (Climbs most 0)) {operators : Nat}
    (within : operators ≤ most) (after : List Char) (boundary : Boundary after) :
    Yields (text ++ (List.replicate operators ['-', '1']).flatten) after
      (Climbs most operators) := by
  induction operators generalizing after with
  | zero => simpa using operand after boundary
  | succ operators ih =>
    have sign : Yields (['-'] ++ ['1']) after
        (Then (Single (.operator .subtract)) (Single (.integer steepNumeral))) :=
      (yields_symbol '-' _ (by decide)).append (yields_one boundary)
    have front := ih (Nat.le_of_succ_le within) (['-'] ++ ['1'] ++ after)
      (boundary_cons (by decide) (by decide))
    rw [List.replicate_succ', List.flatten_append, ← List.append_assoc, List.flatten_singleton]
    refine (front.append sign).mono ?_
    rintro _ ⟨climbs, ⟨⟨spelled⟩, ⟨numeral⟩⟩⟩
    exact climbs.minus within spelled numeral

theorem yields_steep (most : Nat) (after : List Char) (boundary : Boundary after) :
    Yields (steep most) after (Climbs most most) := by
  induction most generalizing after with
  | zero =>
    refine (yields_one boundary).mono ?_
    rintro _ ⟨spelled⟩
    exact .leaf spelled
  | succ most ih =>
    apply yields_chain _ (Nat.le_refl _) after boundary
    intro after _
    have inner := ih ([')'] ++ after) (boundary_cons (by decide) (by decide))
    have closed := inner.append (yields_symbol ')' .closeBracket (by decide))
    refine ((yields_symbol '(' .openBracket (by decide)).append closed).mono ?_
    rintro _ ⟨⟨opens⟩, ⟨climbs, ⟨closes⟩⟩⟩
    exact climbs.brackets opens closes

def steepSource (most : Nat) : String := String.ofList (steep most)

theorem yields_steep_source (most : Nat) :
    Yields (steepSource most).toList [] (Climbs most most) := by
  rw [steepSource, String.toList_ofList]
  exact yields_steep most [] boundary_nil

end Scanner

open Scanner in
/-- Under every limit there is a source whose tree is as high as the limit has room for, and higher
than the limit itself unless nothing may be nested. The builder takes the tree where its own limit
allows for all of its levels, and under the limit of the parser it calls it too large. -/
theorem Tree.parse_height_bound (most maxStringLength : Nat) :
    (∀ source tree, Tree.parse ⟨most, maxStringLength⟩ source = .ok tree →
      tree.height ≤ most * (most + 3) / 2) ∧
    ∃ source tree, Tree.parse ⟨most, maxStringLength⟩ source = .ok tree ∧
      tree.height = most * (most + 3) / 2 ∧
      (∃ expr, Expr.build .standard ⟨tree.height, maxStringLength⟩ tree = .ok expr) ∧
      (0 < most → most < tree.height ∧
        Expr.build .standard ⟨most, maxStringLength⟩ tree = .error .tooLarge) := by
  rw [← operandHeight_add]
  constructor
  · intro source tree parsed
    exact height_le_of_parse parsed
  · obtain ⟨lexemes, final, fed, ended, @⟨tree, expr, derived, fits, _, high, built⟩⟩ :=
      Scanner.Yields.ofSource_eq (yields_steep_source most)
    have limited (limit : Nat) : Expr.build .standard ⟨limit, maxStringLength⟩ tree =
        Expr.cutOff limit tree.height expr := by
      have unlimited : Expr.Builds .standard ⟨tree.height, maxStringLength⟩ 0 tree expr :=
        built (Nat.zero_add _).le
      simpa only [Expr.build, Nat.zero_add] using unlimited.buildAt_eq 0
    refine ⟨steepSource most, tree, ?_, high, ⟨expr, ?_⟩, ?_⟩
    · rw [Tree.parse_complete _ fed ended (derived.loosen (Nat.zero_le _)), if_pos fits]
    · rw [limited, Expr.cutOff, if_pos (Nat.le_refl _)]
    · intro positive
      have above : most < tree.height := by
        rw [high]
        cases most with
        | zero => cases positive
        | succ most =>
          rw [operandHeight]
          omega
      rw [limited, Expr.cutOff, if_neg (Nat.not_le.2 above)]
      exact ⟨above, rfl⟩

/-- Two levels are enough for a tree of five, and the builder refuses it. -/
theorem Tree.parse_height_bound_of_two :
    (∃ tree, Tree.parse ⟨2, 10⟩ "((1)-1)-1-1" = .ok tree ∧ tree.height = 5 ∧ tree.height ≤ 5) ∧
    ∃ source tree, Tree.parse ⟨2, 10⟩ source = .ok tree ∧ tree.height = 5 ∧
      Expr.build .standard ⟨2, 10⟩ tree = .error .tooLarge := by
  obtain ⟨bound, source, tree, parsed, high, -, refused⟩ := Tree.parse_height_bound 2 10
  refine ⟨?_, source, tree, parsed, high, (refused (by decide)).2⟩
  have reads : (Tree.parse ⟨2, 10⟩ "((1)-1)-1-1").toOption.map Tree.height = some 5 := by decide +kernel
  cases steps : Tree.parse ⟨2, 10⟩ "((1)-1)-1-1" with
  | error error => rw [steps] at reads; cases reads
  | ok tree =>
    rw [steps] at reads
    exact ⟨tree, rfl, Option.some.inj reads, bound _ tree steps⟩

end FieldFormula
