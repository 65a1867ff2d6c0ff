import Mathlib.Control.Monad.Basic
import FieldFormula.Compiler
import FieldFormula.Proofs.Expr.Build
import FieldFormula.Proofs.Parser.Exactness

/-! The limit on nesting cuts off exactly at the height of a tree. The parser never rejects a tree
that the builder accepts, and the builder rejects every tree of more levels than the limit. -/

namespace FieldFormula

namespace Expr

variable {registry : Registry} {limits : Limits} {most : Nat}

/-- The result of a part under another limit: its value if it fits, and a rejection if not. -/
abbrev cutOff {α : Type} (most depth : Nat) (value : α) : Except Error α :=
  if depth ≤ most then .ok value else .error .tooLarge

theorem cutOff_map {α β : Type} {depth : Nat} {value : α} (f : α → β) :
    (cutOff most depth value >>= fun value => pure (f value)) = cutOff most depth (f value) := by
  by_cases within : depth ≤ most
  · rw [cutOff, cutOff, if_pos within, if_pos within]
    rfl
  · rw [cutOff, cutOff, if_neg within, if_neg within]
    rfl

theorem cutOff_map₂ {α β γ : Type} {depth other : Nat} {first : α} {second : β} (f : α → β → γ) :
    (cutOff most depth first >>= fun first =>
      cutOff most other second >>= fun second => pure (f first second)) =
        cutOff most (max depth other) (f first second) := by
  by_cases within : depth ≤ most
  · have same : cutOff most (max depth other) (f first second) =
        cutOff most other (f first second) := by
      simp only [cutOff, Nat.max_le, within, true_and]
    rw [same, ← cutOff_map (f first), cutOff, if_pos within]
    rfl
  · have cut : ¬ max depth other ≤ most := by omega
    simp only [cutOff, if_neg within, if_neg cut]
    rfl

/-- A tree that already starts too deep is cut off, and its parts decide over any other one. -/
theorem buildAt_eq_cutOff {depth : Nat} {tree : Tree} {expr : Expr Unit}
    (built : depth ≤ limits.maxDepth →
      buildAt registry limits depth tree = cutOff limits.maxDepth (depth + tree.height) expr) :
    buildAt registry limits depth tree = cutOff limits.maxDepth (depth + tree.height) expr := by
  by_cases within : depth ≤ limits.maxDepth
  · exact built within
  · rw [cutOff, if_neg (by omega)]
    unfold buildAt
    rw [if_pos (Nat.not_le.1 within)]

/-- A tree without parts of its own is cut off where it stands. -/
theorem buildAt_leaf {depth : Nat} {tree : Tree} {expr : Expr Unit} (flat : tree.height = 0)
    (built : depth ≤ limits.maxDepth → buildAt registry limits depth tree = .ok expr) :
    buildAt registry limits depth tree = cutOff limits.maxDepth (depth + tree.height) expr := by
  refine buildAt_eq_cutOff fun within => ?_
  rw [cutOff, flat, Nat.add_zero, if_pos within, built within]

mutual

/-- The limit on nesting decides nothing but whether a tree is too high. -/
theorem Builds.buildAt_eq {start : Nat} {tree : Tree} {expr : Expr Unit} :
    Builds registry limits start tree expr → ∀ depth,
      buildAt registry { limits with maxDepth := most } depth tree =
        cutOff most (depth + tree.height) expr
  | .string _ read | .integer _ read | .decimal _ read | .field _ read => fun depth => by
    refine buildAt_leaf rfl fun within => ?_
    rw [buildAt, if_neg (Nat.not_lt.2 within)]
    exact bind_eq_ok_iff.2 ⟨_, read, rfl⟩
  | .boolean _ => fun depth => by
    refine buildAt_leaf rfl fun within => ?_
    rw [buildAt, if_neg (Nat.not_lt.2 within)]
  | .lookup _ readLink readField named => fun depth => by
    refine buildAt_leaf rfl fun within => ?_
    rw [buildAt, if_neg (Nat.not_lt.2 within)]
    refine bind_eq_ok_iff.2 ⟨_, readLink, bind_eq_ok_iff.2 ⟨_, readField, ?_⟩⟩
    rw [if_neg named]
    rfl
  | .brackets _ inside => fun depth => by
    refine buildAt_eq_cutOff fun within => ?_
    rw [buildAt, if_neg (Nat.not_lt.2 within), inside.buildAt_eq, Tree.height, Nat.add_assoc,
      Nat.add_comm 1]
  | .negation _ resolved inside => fun depth => by
    refine buildAt_eq_cutOff fun within => ?_
    rw [buildAt, if_neg (Nat.not_lt.2 within), resolved, ok_bind, inside.buildAt_eq, cutOff_map,
      Tree.height, Nat.add_assoc, Nat.add_comm 1]
  | .binary _ stands resolved leftInside rightInside => fun depth => by
    refine buildAt_eq_cutOff fun within => ?_
    rw [buildAt, if_neg (Nat.not_lt.2 within), stands]
    simp only
    rw [resolved, ok_bind, leftInside.buildAt_eq, rightInside.buildAt_eq]
    refine (cutOff_map₂ fun first second => call _ [first, second] ()).trans ?_
    rw [Tree.height, Nat.add_max_add_left, Nat.add_assoc, Nat.add_comm 1]
  | .call _ resolved inside => fun depth => by
    refine buildAt_eq_cutOff fun within => ?_
    rw [buildAt, if_neg (Nat.not_lt.2 within), resolved, ok_bind, inside.buildAllAt_eq depth within,
      cutOff_map, Tree.height]

theorem BuildsAll.buildAllAt_eq {start : Nat} {trees : List Tree} {exprs : List (Expr Unit)} :
    BuildsAll registry limits start trees exprs → ∀ depth, depth ≤ most →
      buildAllAt registry { limits with maxDepth := most } (depth + 1) trees =
        cutOff most (depth + Tree.heightUnder trees) exprs
  | .nil => fun depth within => by
    rw [buildAllAt, cutOff, Tree.heightUnder, Nat.add_zero, if_pos within]
  | .cons first others => fun depth within => by
    rw [buildAllAt, first.buildAt_eq, others.buildAllAt_eq depth within]
    refine (cutOff_map₂ fun first others => first :: others).trans ?_
    rw [Tree.heightUnder, Nat.add_assoc, Nat.add_comm 1, Nat.add_max_add_left]

end

end Expr

namespace Compiler

variable {registry : Registry} {limits : Limits} {source : String} {tree : Tree} {expr : Expr Unit}

theorem read_eq_ok_iff {compiler : Compiler} :
    compiler.read source = .ok expr ↔
      ∃ tree, compiler.parse source = .ok tree ∧ compiler.build tree = .ok expr :=
  bind_eq_ok_iff

/-- Where lexemes derive a tree and the tree is built to an expression, at whatever depth, the limit
on nesting decides between the expression and a rejection. -/
theorem read_of_derived (most : Nat) {lexemes : List Lexeme} {final : Lexeme} {depth : Nat}
    (fed : Feed.ofSource source = .ofLexemes lexemes final) (ended : final.token = .endOfInput)
    (derived : Grammar.Expression 0 lexemes tree)
    (built : Expr.Builds registry limits depth tree expr) :
    Compiler.read ⟨registry, { limits with maxDepth := most }⟩ source =
      Expr.cutOff most tree.height expr := by
  have demand := tree.demand_le_height
  unfold read parse build Expr.build
  simp only [Tree.parse_complete _ fed ended derived]
  by_cases fits : tree.demand ≤ most + 1
  · rw [if_pos fits, ok_bind, built.buildAt_eq, Nat.zero_add]
  · have high : ¬ tree.height ≤ most := by omega
    rw [if_neg fits, Expr.cutOff, if_neg high]
    rfl

/-- A formula that is read with one limit on nesting is, with any other one, read to the same
expression or too large. -/
theorem read_eq_cutOff (most : Nat) (parsed : Tree.parse limits source = .ok tree)
    (built : Expr.build registry limits tree = .ok expr) :
    Compiler.read ⟨registry, { limits with maxDepth := most }⟩ source =
      Expr.cutOff most tree.height expr := by
  obtain ⟨lexemes, final, fed, ended, derived⟩ := Tree.parse_sound parsed
  exact read_of_derived most fed ended derived (Expr.builds_of_buildAt tree built)

/-- Without a limit to speak of a formula has a tree of some height, and any other limit lets the
formula pass if it is at least that height and calls it too large if it is not. -/
theorem read_cut_off_at_height (registry : Registry) (maxStringLength most unlimited : Nat)
    (source : String) (enough : source.length ≤ unlimited) (expr : Expr Unit) :
    (∀ tree, Compiler.parse ⟨registry, unlimited, maxStringLength⟩ source = .ok tree →
      Compiler.read ⟨registry, unlimited, maxStringLength⟩ source = .ok expr →
      (tree.height ≤ most →
        Compiler.read ⟨registry, most, maxStringLength⟩ source = .ok expr) ∧
      (most < tree.height →
        Compiler.read ⟨registry, most, maxStringLength⟩ source = .error .tooLarge)) ∧
    (Compiler.read ⟨registry, most, maxStringLength⟩ source = .ok expr →
      Compiler.read ⟨registry, unlimited, maxStringLength⟩ source = .ok expr ∧
      ∃ tree, Compiler.parse ⟨registry, unlimited, maxStringLength⟩ source = .ok tree ∧
        tree.height ≤ most) := by
  refine ⟨fun tree parsed succeeded => ?_, fun succeeded => ?_⟩
  · obtain ⟨same, parsedAgain, built⟩ := read_eq_ok_iff.1 succeeded
    cases parsed.symm.trans parsedAgain
    have limited := read_eq_cutOff most parsed built
    refine ⟨fun fits => limited.trans ?_, fun exceeds => limited.trans ?_⟩
    · rw [Expr.cutOff, if_pos fits]
    · rw [Expr.cutOff, if_neg (Nat.not_le.2 exceeds)]
  · obtain ⟨tree, parsed, built⟩ := read_eq_ok_iff.1 succeeded
    obtain ⟨lexemes, final, fed, ended, derived⟩ := Tree.parse_sound parsed
    have levels := Tree.height_lt_of_derived fed derived
    have limited := read_eq_cutOff most parsed built
    have unlimitedRead := read_eq_cutOff unlimited parsed built
    rw [Expr.cutOff, if_pos (by omega)] at unlimitedRead
    refine ⟨unlimitedRead, tree, Tree.parse_of_derived enough fed ended derived, ?_⟩
    refine Decidable.byContradiction fun exceeds => ?_
    rw [Expr.cutOff, if_neg exceeds] at limited
    cases succeeded.symm.trans limited

/-- Brackets between two operators make three levels. -/
theorem read_cut_off_below_three :
    Compiler.read ⟨.ofDefinitions [.ofName "minus" (.exactly 2) (.fixed .untyped)], 3, 9⟩
      "1-(2-3)" = .ok (.call "minus" [.integer 1 (),
        .call "minus" [.integer 2 (), .integer 3 ()] ()] ()) ∧
    Compiler.read ⟨.ofDefinitions [.ofName "minus" (.exactly 2) (.fixed .untyped)], 2, 9⟩
      "1-(2-3)" = .error .tooLarge := by
  let registry := Registry.ofDefinitions [.ofName "minus" (.exactly 2) (.fixed .untyped)]
  have enough : "1-(2-3)".length ≤ 7 := by decide
  have parsed : Compiler.parse ⟨registry, 7, 9⟩ "1-(2-3)" =
      .ok (.binary .subtract (.integer "1" ⟨1, 0⟩) (.brackets (.binary .subtract
        (.integer "2" ⟨1, 3⟩) (.integer "3" ⟨1, 5⟩) ⟨1, 4⟩) ⟨1, 2⟩) ⟨1, 1⟩) := by decide +kernel
  have succeeded : Compiler.read ⟨registry, 7, 9⟩ "1-(2-3)" = .ok (.call "minus" [.integer 1 (),
      .call "minus" [.integer 2 (), .integer 3 ()] ()] ()) := by decide +kernel
  exact ⟨((read_cut_off_at_height registry 9 3 7 _ enough _).1 _ parsed succeeded).1 (by decide),
    ((read_cut_off_at_height registry 9 2 7 _ enough _).1 _ parsed succeeded).2 (by decide)⟩

end Compiler

end FieldFormula
