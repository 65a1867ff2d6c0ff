import FieldFormula.Proofs.Depth
import FieldFormula.Proofs.Expr.Print

/-! Printing undoes reading. Whatever a source is read to can be printed, and the printed formula is
read to the same expression, provided that its decimals have places behind their points. -/

namespace FieldFormula

open FieldFormula.Expr

theorem Registry.standard_plainlyNamed : Registry.standard.PlainlyNamed := by
  have plain : ∀ definition ∈ Catalogue.definitions,
      Token.isIdentifier definition.name.toList = true ∧ definition.name ∉ Token.keywords := by
    decide +kernel
  intro entry member
  exact plain _ (Registry.mem_of_mem_ofDefinitions member)

namespace Compiler

variable {compiler : Compiler} {source : String} {expr : Expr Unit}

/-- A source is read to an admissible expression. -/
theorem admissible_of_read (read : compiler.read source = .ok expr) :
    Admissible compiler.registry compiler.limits 0 expr := by
  obtain ⟨tree, parsed, built⟩ := read_eq_ok_iff.1 read
  exact (builds_of_buildAt tree built).admissible (Tree.genuine_of_parse parsed) 0
    (Nat.le_refl 0)

/-- A text that stands for an admissible expression is read to it. -/
theorem restores_of_spelled {text : String}
    (admissible : Admissible compiler.registry compiler.limits 0 expr) (spelled : Spelled text expr) :
    Restores expr.decimals expr (compiler.read text) := by
  obtain ⟨lexemes, final, fed, ended, written⟩ := (spelled [] Token.boundary_nil).ofSource_eq
  obtain ⟨tree, derived, mirrors⟩ := written.expression
  have levels := mirrors.height_le admissible
  have demand := tree.demand_le_height
  have parsed : compiler.parse text = .ok tree := by
    rw [parse, Tree.parse_complete compiler.limits fed ended derived, if_pos (by omega)]
  unfold read
  rw [parsed, ok_bind]
  exact mirrors.restores admissible

/-- Whatever is read can be printed in every layout, and the printed formula is read to the same
expression; only where a decimal without places behind its point would be read as a whole number, the
printed formula has a fault in its syntax. -/
theorem read_print :
    Registry.standard.PlainlyNamed ∧
    ∀ (compiler : Compiler) (source : String) (expr : Expr Unit) (layout : Layout),
      compiler.registry.PlainlyNamed → compiler.read source = .ok expr →
      ∃ text, expr.print layout = .ok text ∧
        ((∀ decimal ∈ expr.decimals, 1 ≤ decimal.scale) → compiler.read text = .ok expr) ∧
        ((∃ decimal ∈ expr.decimals, decimal.scale = 0) →
          ∃ error, compiler.read text = .error (.malformed error)) := by
  refine ⟨Registry.standard_plainlyNamed, fun compiler source expr layout plain read => ?_⟩
  have admissible := admissible_of_read read
  obtain ⟨text, printed, spelled⟩ := admissible.printAt_eq_ok plain layout 0
  have restores := restores_of_spelled admissible spelled
  exact ⟨text, printed, restores.same, restores.malformed⟩

/-- A sign, a trailing zero and a quote survive; a decimal with no room for places does not. -/
theorem read_print_of_difference :
    (∃ text, (Expr.call "minus" [.decimal ⟨-150, 2, by decide, by decide⟩ (),
        .reference "it's" none ()] ()).print .pretty = .ok text ∧
      Compiler.read ⟨.ofDefinitions [.ofName "minus" (.exactly 2) (.fixed .untyped)], 2, 9⟩ text =
        .ok (.call "minus" [.decimal ⟨-150, 2, by decide, by decide⟩ (),
          .reference "it's" none ()] ())) ∧
    ∃ text error, (Expr.decimal ⟨79228162514264337593543950335, 0, by decide, by decide⟩ ()).print
        .compact = .ok text ∧
      Compiler.read ⟨.empty, 0, 0⟩ text = .error (.malformed error) := by
  constructor
  · let registry := Registry.ofDefinitions [.ofName "minus" (.exactly 2) (.fixed .untyped)]
    have plain : registry.PlainlyNamed := by
      unfold Registry.PlainlyNamed
      decide
    have read : Compiler.read ⟨registry, 2, 9⟩ "(-1.50) - field(\"it's\")" =
        .ok (.call "minus" [.decimal ⟨-150, 2, by decide, by decide⟩ (),
          .reference "it's" none ()] ()) := by decide +kernel
    obtain ⟨text, printed, same, _⟩ := read_print.2 ⟨registry, 2, 9⟩ _ _ .pretty plain read
    exact ⟨text, printed, same (by decide)⟩
  · have plain : Registry.empty.PlainlyNamed := by
      rintro _ ⟨⟩
    have read : Compiler.read ⟨.empty, 0, 0⟩ "79228162514264337593543950335.1" =
        .ok (.decimal ⟨79228162514264337593543950335, 0, by decide, by decide⟩ ()) := by decide +kernel
    obtain ⟨text, printed, _, malformed⟩ := read_print.2 ⟨.empty, 0, 0⟩ _ _ .compact plain read
    obtain ⟨error, failed⟩ := malformed ⟨_, List.mem_singleton.2 rfl, rfl⟩
    exact ⟨text, error, printed, failed⟩

end Compiler

end FieldFormula
