import FieldFormula.Proofs.Compiled
import FieldFormula.Proofs.Expr.Rename
import FieldFormula.Proofs.Partition
import FieldFormula.Proofs.Rounding

/-! The decimals of a formula and the numbers that its source writes for them. Both stand in one
order, and each decimal keeps what there is room for of the number that is written. -/

namespace FieldFormula

/-- Whether a lexeme is a number with a point. -/
def Lexeme.isDecimal (lexeme : Lexeme) : Bool :=
  match lexeme.token with
  | .decimal _ => true
  | _ => false

/-- A lexeme writes a number in its place: by itself, or together with the minus sign directly
before it. -/
inductive Lexeme.WritesNumber (lexemes : List Lexeme) (lexeme : Lexeme) : String × Position → Prop
  | plain {text : String} (spelled : lexeme.token = .decimal text) :
      WritesNumber lexemes lexeme (text, lexeme.position)
  | signed {text : String} {sign : Lexeme} (spelled : lexeme.token = .decimal text)
      (minus : sign.token = .operator .subtract) (adjacent : [sign, lexeme] <:+: lexemes) :
      WritesNumber lexemes lexeme ("-" ++ text, sign.position)

namespace Tree

mutual

/-- The numbers with a point in a tree, from left to right, with their places. -/
def decimals : Tree → List (String × Position)
  | decimal text position => [(text, position)]
  | brackets inner _ => inner.decimals
  | negation operand _ => operand.decimals
  | binary _ left right _ => left.decimals ++ right.decimals
  | call _ args _ => decimalsOfAll args
  | _ => []

def decimalsOfAll : List Tree → List (String × Position)
  | [] => []
  | arg :: args => arg.decimals ++ decimalsOfAll args

end

end Tree

namespace Grammar

variable {all : List Lexeme}

theorem filter_isDecimal_cons {lexeme : Lexeme} {lexemes : List Lexeme}
    (other : ∀ text, lexeme.token ≠ .decimal text) :
    (lexeme :: lexemes).filter Lexeme.isDecimal = lexemes.filter Lexeme.isDecimal := by
  have excluded : lexeme.isDecimal = false := by
    unfold Lexeme.isDecimal
    split
    · next text spelled => exact absurd spelled (other text)
    · rfl
  rw [List.filter_cons_of_neg (by simp [excluded])]

theorem filter_isDecimal_singleton {lexeme : Lexeme} {text : String}
    (spelled : lexeme.token = .decimal text) : [lexeme].filter Lexeme.isDecimal = [lexeme] := by
  simp [Lexeme.isDecimal, spelled]

/-- A minus sign is part of the number directly behind it, and writes no number by itself. -/
theorem writes_negate {sign : Lexeme} {lexemes : List Lexeme} {tree : Tree}
    (minus : sign.token = .operator .subtract) (inside : sign :: lexemes <:+: all)
    (operand : List.Forall₂ (Lexeme.WritesNumber all) (lexemes.filter Lexeme.isDecimal)
      tree.decimals) :
    List.Forall₂ (Lexeme.WritesNumber all) ((sign :: lexemes).filter Lexeme.isDecimal)
      (negate sign lexemes tree).decimals := by
  rw [filter_isDecimal_cons (by simp [minus])]
  unfold negate
  split
  · next text same =>
    obtain ⟨lexeme, rfl, spelled⟩ := List.map_eq_singleton_iff.1 same
    rw [filter_isDecimal_cons (by simp [spelled])]
    exact .nil
  · next text same =>
    obtain ⟨lexeme, rfl, spelled⟩ := List.map_eq_singleton_iff.1 same
    rw [filter_isDecimal_singleton spelled]
    exact .cons (.signed spelled minus inside) .nil
  · exact operand

mutual

/-- A tree has the numbers that its lexemes write, in their order. -/
theorem Expression.writes {level : Nat} {lexemes : List Lexeme} {tree : Tree} :
    Expression level lexemes tree → lexemes <:+: all →
      List.Forall₂ (Lexeme.WritesNumber all) (lexemes.filter Lexeme.isDecimal) tree.decimals
  | .operand operand, inside => operand.writes inside
  | .chain _ head tail, inside => by
    rw [List.filter_append]
    have first := head.writes ((List.prefix_append _ _).isInfix.trans inside)
    exact tail.writes ((List.suffix_append _ _).isInfix.trans inside) first

/-- The numbers of a chain come behind those of its left operand. -/
theorem Chain.writes {level : Nat} {left tree : Tree} {lexemes before : List Lexeme} :
    Chain level left lexemes tree → lexemes <:+: all →
      List.Forall₂ (Lexeme.WritesNumber all) before left.decimals →
        List.Forall₂ (Lexeme.WritesNumber all) (before ++ lexemes.filter Lexeme.isDecimal)
          tree.decimals
  | .done, _, first => by simpa using first
  | .more spelled _ operand tail, inside, first => by
    have behind := (List.suffix_cons _ _).isInfix.trans inside
    have second := operand.writes ((List.prefix_append _ _).isInfix.trans behind)
    rw [filter_isDecimal_cons (by simp [spelled]), List.filter_append, ← List.append_assoc]
    exact tail.writes ((List.suffix_append _ _).isInfix.trans behind) (List.rel_append first second)

theorem Operand.writes {lexemes : List Lexeme} {tree : Tree} :
    Operand lexemes tree → lexemes <:+: all →
      List.Forall₂ (Lexeme.WritesNumber all) (lexemes.filter Lexeme.isDecimal) tree.decimals
  | .minus spelled operand, inside =>
    writes_negate spelled inside (operand.writes ((List.suffix_cons _ _).isInfix.trans inside))
  | .primary primary, inside => primary.writes inside

theorem Primary.writes {lexemes : List Lexeme} {tree : Tree} :
    Primary lexemes tree → lexemes <:+: all →
      List.Forall₂ (Lexeme.WritesNumber all) (lexemes.filter Lexeme.isDecimal) tree.decimals
  | .decimal spelled, _ => by
    rw [filter_isDecimal_singleton spelled]
    exact .cons (.plain spelled) .nil
  | .string _, _ | .integer _, _ | .boolean _, _ | .field .., _ | .lookup .., _ | .fieldById .., _
  | .emptyCall .., _ => by simp [Tree.decimals, Tree.decimalsOfAll, Lexeme.isDecimal, *]
  | .brackets opens expression closes, inside => by
    have behind := (List.suffix_cons _ _).isInfix.trans inside
    rw [filter_isDecimal_cons (by simp [opens]), List.filter_append,
      filter_isDecimal_cons (by simp [closes]), List.filter_nil, List.append_nil]
    exact expression.writes ((List.prefix_append _ _).isInfix.trans behind)
  | .call named opens arguments closes, inside => by
    have behind := (List.suffix_cons _ _).isInfix.trans inside
    have within := (List.suffix_cons _ _).isInfix.trans behind
    rw [filter_isDecimal_cons (by simp [named]), filter_isDecimal_cons (by simp [opens]),
      List.filter_append, filter_isDecimal_cons (by simp [closes]), List.filter_nil,
      List.append_nil]
    exact arguments.writes ((List.prefix_append _ _).isInfix.trans within)

theorem Arguments.writes {lexemes : List Lexeme} {trees : List Tree} :
    Arguments lexemes trees → lexemes <:+: all →
      List.Forall₂ (Lexeme.WritesNumber all) (lexemes.filter Lexeme.isDecimal)
        (Tree.decimalsOfAll trees)
  | .last expression, inside => by
    simpa [Tree.decimalsOfAll] using expression.writes inside
  | .more expression separated others, inside => by
    have behind := (List.suffix_append _ _).isInfix.trans inside
    have first := expression.writes ((List.prefix_append _ _).isInfix.trans inside)
    have rest := others.writes ((List.suffix_cons _ _).isInfix.trans behind)
    rw [List.filter_append, filter_isDecimal_cons (by simp [separated])]
    exact List.rel_append first rest

end

end Grammar

namespace Expr

variable {registry : Registry} {limits : Limits}

mutual

/-- The decimals of an expression are read from the numbers of the tree that it is built from. -/
theorem Builds.reads {depth : Nat} {tree : Tree} {expr : Expr Unit} :
    Builds registry limits depth tree expr →
      List.Forall₂ (fun number decimal => readDecimal number.1 number.2 = .ok decimal)
        tree.decimals expr.decimals
  | .decimal _ read => .cons read .nil
  | .string .. | .integer .. | .boolean .. | .field .. | .lookup .. => .nil
  | .brackets _ inside => inside.reads
  | .negation _ _ inside => by
    simpa [Tree.decimals, decimals, decimalsOfAll] using inside.reads
  | .binary _ _ _ left right => by
    simpa [Tree.decimals, decimals, decimalsOfAll] using List.rel_append left.reads right.reads
  | .call _ _ inside => inside.reads

theorem BuildsAll.reads {depth : Nat} {trees : List Tree} {exprs : List (Expr Unit)} :
    BuildsAll registry limits depth trees exprs →
      List.Forall₂ (fun number decimal => readDecimal number.1 number.2 = .ok decimal)
        (Tree.decimalsOfAll trees) (decimalsOfAll exprs)
  | .nil => .nil
  | .cons first others => List.rel_append first.reads others.reads

end

theorem decimals_mapNotes {α β : Type} (f : α → β) (expr : Expr α) :
    (expr.mapNotes f).decimals = expr.decimals := by
  induction expr using induction_on_args with
  | string | integer | decimal | boolean | reference => rfl
  | call function args note ih =>
    rw [mapNotes, decimals, decimals, decimalsOfAll_eq_flatMap, decimalsOfAll_eq_flatMap,
      mapNotesAll_eq_map, List.flatMap_map]
    exact List.flatMap_congr ih

end Expr

open Numeral

theorem Token.Spelled.exists_fraction {text : String} {spelling : List Char}
    (spelled : Token.Spelled (.decimal text) spelling) :
    ∃ whole fraction, text.toList = whole ++ '.' :: fraction ∧ isDigits whole = true ∧
      isDigits fraction = true := by
  cases spelled with
  | decimal parts wholeDigits fractionDigits => exact ⟨_, _, parts, wholeDigits, fractionDigits⟩
  | keyword named member => simp [Token.keywordTokens] at member
  | symbol member => simp [Token.symbols] at member

/-- What lexemes write as a number has digits on both sides of a point. -/
theorem Lexeme.WritesNumber.exists_text_eq {lexemes : List Lexeme} {lexeme : Lexeme}
    {text : String} {position : Position}
    (writes : lexeme.WritesNumber lexemes (text, position))
    (spelled : lexeme.token.Spelled lexeme.spelling.toList) :
    ∃ number : Fractional, number.text = text := by
  cases writes with
  | plain named =>
    rw [named] at spelled
    obtain ⟨whole, fraction, parts, wholeDigits, fractionDigits⟩ := spelled.exists_fraction
    refine ⟨⟨false, whole, fraction, wholeDigits, fractionDigits⟩, ?_⟩
    simp [Fractional.text, ← parts]
  | signed named _ _ =>
    rw [named] at spelled
    obtain ⟨whole, fraction, parts, wholeDigits, fractionDigits⟩ := spelled.exists_fraction
    refine ⟨⟨true, whole, fraction, wholeDigits, fractionDigits⟩, ?_⟩
    simp [Fractional.text, ← parts]

namespace Decimal

/-- Up to ten places are kept of every number that has room with so many of them. -/
theorem Keeps.min_scale_eq_iff {decimal : Decimal} {number : Fractional}
    (keeps : decimal.Keeps number) :
    min decimal.scale 10 = min number.places 10 ↔
      number.magnitude * 10 ^ min number.places 10 < limit := by
  have most : min number.places 10 ≤ maxScale := (Nat.min_le_right _ _).trans (by decide)
  have there : min number.places 10 ≤ number.places := Nat.min_le_left _ _
  rw [← keeps.rounds.le_scale_iff number.magnitude_nonneg most there]
  have fewer := keeps.rounds.scale_le_places
  omega

end Decimal

namespace Compiler

variable {compiler : Compiler} {source : String} {tree : Tree} {expr : Expr Unit}

/-- The numbers of a parsed tree are those that its source writes, in their order. -/
theorem exists_numbers_of_parse (parsed : compiler.parse source = .ok tree) :
    ∃ (lexemes : List Lexeme) (numbers : List (Fractional × Position)),
      (Feed.ofSource source).lexemes = .ok lexemes ∧
      tree.decimals = numbers.map (fun number => (number.1.text, number.2)) ∧
      List.Forall₂ (fun lexeme number => lexeme.WritesNumber lexemes (number.1.text, number.2))
        (lexemes.filter Lexeme.isDecimal) numbers := by
  obtain ⟨inner, final, fed, ended, derived⟩ := Tree.parse_sound parsed
  have scanned : (Feed.ofSource source).lexemes = .ok (inner ++ [final]) := by
    rw [fed, Feed.lexemes_ofLexemes]
  obtain ⟨pieces, scanner, laid, _, same, _⟩ := Feed.exists_laid scanned
  obtain ⟨rfl, _⟩ := List.append_inj' same rfl
  have writes := derived.writes (List.prefix_append _ [final]).isInfix
  have shaped : ∀ literal ∈ tree.decimals,
      literal ∈ Set.range fun number : Fractional × Position => (number.1.text, number.2) := by
    rintro ⟨text, position⟩ member
    obtain ⟨lexeme, there, written⟩ := Expr.exists_left_of_forall₂ writes member
    have spelled := (laid.spelled lexeme (List.mem_of_mem_filter there)).1
    obtain ⟨number, rfl⟩ := written.exists_text_eq spelled
    exact ⟨(number, position), rfl⟩
  obtain ⟨numbers, numbers_eq⟩ : tree.decimals ∈ Set.range (List.map _) := by
    rw [Set.range_list_map]
    exact shaped
  refine ⟨_, numbers, scanned, numbers_eq.symm, ?_⟩
  rw [List.filter_append, Grammar.filter_isDecimal_cons (by simp [ended]), List.filter_nil,
    List.append_nil]
  rwa [← numbers_eq, List.forall₂_map_right_iff] at writes

theorem type_of_decimal {resolve : Resolver} {typed : Expr Ty}
    (checked : compiler.check resolve expr = .ok typed) {level : Nat} {decimal : Decimal}
    {type : Ty} (lies : Expr.LiesAt typed level (.decimal decimal type)) :
    type = .number (min decimal.scale 10).toUInt32 := by
  have every : ∀ scale ≤ Decimal.maxScale,
      Ty.numberWith scale.toUInt32 = .number (min scale 10).toUInt32 := by
    decide
  have justified := Expr.justified_of_checkAt checked level _ lies
  exact justified.trans (every decimal.scale decimal.scale_le)

/-- What becomes of the numbers with a point in a source. A number that is out of range without any
places is rejected where it stands. If the source is accepted, each decimal is the nearest to the
number that is written, with as many places as there is room for, and is typed by these; it is that
number itself, with all of its places, only if there is room for all digits. -/
theorem read_keeps_decimals (compiler : Compiler) (source : String) (tree : Tree)
    (parsed : compiler.parse source = .ok tree) :
    ∃ (lexemes : List Lexeme) (numbers : List (Fractional × Position)),
      (Feed.ofSource source).lexemes = .ok lexemes ∧
      List.Forall₂ (fun lexeme number => lexeme.WritesNumber lexemes (number.1.text, number.2))
        (lexemes.filter Lexeme.isDecimal) numbers ∧
      tree.decimals = numbers.map (fun number => (number.1.text, number.2)) ∧
      (∀ number position, (number, position) ∈ numbers → Decimal.limit ≤ number.magnitude →
        compiler.build (.decimal number.text position) =
          .error (.malformed ⟨.numberOutOfRange number.text, position⟩) ∧
        ∃ error, compiler.read source = .error error) ∧
      ∀ expr, compiler.read source = .ok expr →
        List.Forall₂ (fun number decimal => decimal.Keeps number.1 ∧
            ((decimal.scale = number.1.places ∧ decimal.toRat = number.1.toRat) ↔
              number.1.places ≤ Decimal.maxScale ∧ number.1.digits < Decimal.bound) ∧
            (min decimal.scale 10 = min number.1.places 10 ↔
              number.1.magnitude * 10 ^ min number.1.places 10 < Decimal.limit))
          numbers expr.decimals ∧
        ∀ resolve typed, compiler.check resolve expr = .ok typed →
          typed.decimals = expr.decimals ∧
          ∀ level decimal type, Expr.LiesAt typed level (.decimal decimal type) →
            type = .number (min decimal.scale 10).toUInt32 := by
  obtain ⟨lexemes, numbers, scanned, numbers_eq, writes⟩ := exists_numbers_of_parse parsed
  have reads (expr : Expr Unit) (read : compiler.read source = .ok expr) :
      List.Forall₂ (fun number decimal => Expr.readDecimal number.1.text number.2 = .ok decimal)
        numbers expr.decimals := by
    obtain ⟨_, parsedAgain, built⟩ := bind_eq_ok_iff.1 read
    cases parsed.symm.trans parsedAgain
    have built := (Expr.builds_of_buildAt tree built).reads
    rwa [numbers_eq, List.forall₂_map_left_iff] at built
  refine ⟨lexemes, numbers, scanned, writes, numbers_eq, ?_, ?_⟩
  · intro number position member large
    have rejected : Expr.readDecimal number.text position = .error _ :=
      Expr.readDecimal_eq_error_iff.2 large
    constructor
    · rw [build, Expr.build, Expr.buildAt, if_neg (Nat.not_lt_zero _), rejected]
      rfl
    · cases outcome : compiler.read source with
      | error error => exact ⟨error, rfl⟩
      | ok expr =>
        obtain ⟨decimal, _, kept⟩ :=
          Expr.exists_left_of_forall₂ (List.Forall₂.flip (reads expr outcome)) member
        cases rejected.symm.trans kept
  · intro expr read
    constructor
    · apply (reads expr read).imp
      intro number decimal kept
      have keeps := Expr.readDecimal_eq_ok_iff.1 kept
      exact ⟨keeps, keeps.exact_iff, keeps.min_scale_eq_iff⟩
    · intro resolve typed checked
      constructor
      · rw [← bare_of_check read checked]
        exact (Expr.decimals_mapNotes _ typed).symm
      · intro level decimal type lies
        exact type_of_decimal checked lies

theorem read_of_decimal {text : String} {position : Position} {decimal : Decimal}
    (parsed : compiler.parse source = .ok (.decimal text position))
    (kept : Expr.readDecimal text position = .ok decimal) :
    compiler.read source = .ok (.decimal decimal ()) := by
  rw [read, parsed, ok_bind, build, Expr.build, Expr.buildAt, if_neg (Nat.not_lt_zero _), kept]
  rfl

/-- A sign belongs to its number, and zeros at the end are places. -/
theorem read_keeps_decimals_of_sign :
    ∃ decimal : Decimal, Compiler.read {} "-1.50" = .ok (.decimal decimal ()) ∧
      decimal.scale = 2 ∧ decimal.toRat = -3 / 2 := by
  let number : Fractional := ⟨true, ['1'], ['5', '0'], rfl, rfl⟩
  have parsed : Tree.parse {} "-1.50" = .ok (.decimal number.text ⟨1, 0⟩) := by decide +kernel
  have kept : Expr.readDecimal number.text ⟨1, 0⟩ = .ok ⟨-150, 2, by decide, by decide⟩ := by decide +kernel
  have read : Compiler.read {} "-1.50" = .ok _ := read_of_decimal parsed kept
  obtain ⟨_, _, _, _, numbers_eq, _, accepted⟩ := read_keeps_decimals {} _ _ parsed
  obtain ⟨⟨written, place⟩, rfl, same⟩ := List.map_eq_singleton_iff.1 numbers_eq.symm
  obtain rfl : written = number := Fractional.text_injective (congrArg Prod.fst same)
  obtain _ | ⟨⟨_, exact_iff, _⟩, _⟩ := (accepted _ read).1
  have few : number.places ≤ Decimal.maxScale := by decide
  have room : number.digits < Decimal.bound := by decide
  have written_eq : number.toRat = -((150 : Nat) / 10 ^ 2) := rfl
  refine ⟨_, read, rfl, (exact_iff.2 ⟨few, room⟩).2.trans ?_⟩
  rw [written_eq]
  norm_num

/-- A digit beyond the last place is dropped, and the number with it; and a place that there is no
room for is missing from the type. -/
theorem read_drops_digits :
    (∃ (number : Fractional) (decimal : Decimal),
      number.text = "0.00000000000000000000000000001" ∧
      Compiler.read {} number.text = .ok (.decimal decimal ()) ∧
      decimal.scale ≠ number.places ∧ decimal.toRat ≠ number.toRat) ∧
    ∃ (number : Fractional) (decimal : Decimal),
      number.text = "79228162514264337593543950335.1" ∧
      Compiler.read {} number.text = .ok (.decimal decimal ()) ∧
      Compiler.check {} Schema.empty.resolve (.decimal decimal ()) =
        .ok (.decimal decimal (.number 0)) ∧ number.places = 1 := by
  constructor
  · let number : Fractional :=
      ⟨false, ['0'], "00000000000000000000000000001".toList, by decide, by decide⟩
    have parsed : Tree.parse {} number.text = .ok (.decimal number.text ⟨1, 0⟩) := by decide +kernel
    have kept : Expr.readDecimal number.text ⟨1, 0⟩ = .ok ⟨0, 28, by decide, by decide⟩ := by decide +kernel
    refine ⟨number, _, by decide, read_of_decimal parsed kept, by decide, ?_⟩
    have written_eq : number.toRat = (1 : Nat) / 10 ^ 29 := rfl
    rw [written_eq]
    norm_num [Decimal.toRat]
  · let number : Fractional :=
      ⟨false, "79228162514264337593543950335".toList, ['1'], by decide, by decide⟩
    have parsed : Tree.parse {} number.text = .ok (.decimal number.text ⟨1, 0⟩) := by decide +kernel
    have kept : Expr.readDecimal number.text ⟨1, 0⟩ =
        .ok ⟨79228162514264337593543950335, 0, by decide, by decide⟩ := by decide +kernel
    exact ⟨number, _, by decide, read_of_decimal parsed kept, rfl, rfl⟩

end Compiler

end FieldFormula
