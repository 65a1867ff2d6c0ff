import Mathlib.Data.Nat.Digits.Defs
import FieldFormula.Proofs.Enclosed
import FieldFormula.Proofs.WrittenDecimals

/-! The whole numbers of a source. Digits are read as the number that they are worth, however many of
them there are, if this number or its negative is one of 64 bits; a sign belongs to the digits behind
it also where a gap lies between them. Whatever numbers a tree holds were read from its source, so
they have digits where they belong, and building never finds fault with their form. -/

namespace FieldFormula

namespace Numeral

/-- What digits are worth: the sum of all, each times its power of ten. -/
def worth (digits : List Char) : Nat :=
  Nat.ofDigits 10 (digits.reverse.map digit)

theorem value_eq_worth (digits : List Char) : value digits = worth digits := by
  rw [worth, Nat.ofDigits_eq_foldr, List.foldr_map, List.foldr_reverse, value]
  simp only [Nat.cast_id, Nat.add_comm (digit _)]

/-- A number without a point, as it is written. -/
structure Whole where
  negative : Bool
  digits : List Char
  valid : isDigits digits = true

namespace Whole

def text (number : Whole) : String :=
  let sign := if number.negative then ['-'] else []
  String.ofList (sign ++ number.digits)

def toInt (number : Whole) : Int :=
  withSign number.negative (worth number.digits)

theorem text_of_negative (digits : List Char) (valid : isDigits digits = true) :
    text ⟨true, digits, valid⟩ = "-" ++ String.ofList digits := by
  rw [← String.toList_inj]
  simp [text]

end Whole

theorem integer?_eq_some_iff {negative : Bool} {digits : List Char} {value : Int64} :
    integer? negative digits = some value ↔ value.toInt = withSign negative (worth digits) := by
  rw [← value_eq_worth, integer?]
  constructor
  · intro found
    split at found
    · next fits =>
      cases found
      exact Int64.toInt_ofInt_of_le fits.1 (Int.lt_of_le_sub_one fits.2)
    · cases found
  · intro same
    rw [← same, if_pos ⟨value.minValue_le_toInt, value.toInt_le⟩, Int64.ofInt_toInt]

theorem integer?_eq_none_iff {negative : Bool} {digits : List Char} :
    integer? negative digits = none ↔
      withSign negative (worth digits) < -2 ^ 63 ∨ 2 ^ 63 ≤ withSign negative (worth digits) := by
  have least : Int64.minValue.toInt = -2 ^ 63 := rfl
  have greatest : Int64.maxValue.toInt = 2 ^ 63 - 1 := rfl
  rw [← value_eq_worth, integer?, least, greatest]
  split
  · next fits =>
    constructor
    · intro found
      cases found
    · omega
  · next exceeds =>
    constructor
    · omega
    · exact fun _ => rfl

end Numeral

open Numeral

namespace Expr

variable {number : Whole} {position : Position}

/-- A number without a point is read to the number of 64 bits that it stands for, or it is out of
range. -/
theorem readInteger_eq (number : Whole) (position : Position) :
    readInteger number.text position = (integer? number.negative number.digits).elim
      (.error (.malformed ⟨.numberOutOfRange number.text, position⟩)) .ok := by
  obtain ⟨negative, digits, valid⟩ := number
  have spelled : (Whole.text ⟨negative, digits, valid⟩).toList =
      (if negative then ['-'] else []) ++ digits := String.toList_ofList
  cases negative with
  | true => exact @readInteger_of_isDigits _ (-1) _ spelled valid position
  | false => exact @readInteger_of_isDigits _ 0 _ spelled valid position

theorem readInteger_eq_ok_iff {value : Int64} :
    readInteger number.text position = .ok value ↔ value.toInt = number.toInt := by
  rw [readInteger_eq, Whole.toInt, ← integer?_eq_some_iff]
  cases integer? number.negative number.digits <;> simp

theorem readInteger_eq_error_iff :
    readInteger number.text position =
        .error (.malformed ⟨.numberOutOfRange number.text, position⟩) ↔
      number.toInt < -2 ^ 63 ∨ 2 ^ 63 ≤ number.toInt := by
  rw [readInteger_eq, Whole.toInt, ← integer?_eq_none_iff]
  cases integer? number.negative number.digits <;> simp

end Expr

/-! The form of the numbers in a tree. -/

namespace Tree

mutual

/-- Every number of a tree is digits behind a sign or none, in the whole or on both sides of a
point. -/
def WellNumbered : Tree → Prop
  | integer text _ => ∃ number : Whole, number.text = text
  | decimal text _ => ∃ number : Fractional, number.text = text
  | brackets inner _ => inner.WellNumbered
  | negation operand _ => operand.WellNumbered
  | binary _ left right _ => left.WellNumbered ∧ right.WellNumbered
  | call _ args _ => WellNumberedAll args
  | _ => True

def WellNumberedAll : List Tree → Prop
  | [] => True
  | arg :: args => arg.WellNumbered ∧ WellNumberedAll args

end

end Tree

theorem Token.Spelled.isDigits {text : String} {spelling : List Char}
    (spelled : Token.Spelled (.integer text) spelling) : isDigits text.toList = true := by
  cases spelled with
  | integer digits => exact digits
  | keyword named member => simp [Token.keywordTokens] at member
  | symbol member => simp [Token.symbols] at member

/-- A lexeme is spelled like its token. -/
def Lexeme.WellSpelled (lexeme : Lexeme) : Prop :=
  lexeme.token.Spelled lexeme.spelling.toList

namespace Grammar

/-- A sign that becomes part of a number stands before its digits. -/
theorem wellNumbered_negate {sign : Lexeme} {lexemes : List Lexeme} {tree : Tree}
    (minus : sign.token = .operator .subtract) (each : ∀ lexeme ∈ lexemes, lexeme.WellSpelled)
    (operand : tree.WellNumbered) : (negate sign lexemes tree).WellNumbered := by
  unfold negate
  split
  · next text same =>
    obtain ⟨lexeme, rfl, named⟩ := List.map_eq_singleton_iff.1 same
    have spelled : lexeme.WellSpelled := each lexeme List.mem_cons_self
    rw [Lexeme.WellSpelled, named] at spelled
    refine ⟨⟨true, text.toList, spelled.isDigits⟩, ?_⟩
    rw [Whole.text_of_negative, String.ofList_toList]
  · next text same =>
    obtain ⟨lexeme, rfl, named⟩ := List.map_eq_singleton_iff.1 same
    have writes : lexeme.WritesNumber [sign, lexeme] ("-" ++ text, sign.position) :=
      .signed named minus List.infix_rfl
    exact writes.exists_text_eq (each lexeme List.mem_cons_self)
  · exact operand

mutual

theorem Expression.wellNumbered {level : Nat} {lexemes : List Lexeme} {tree : Tree} :
    Expression level lexemes tree → (∀ lexeme ∈ lexemes, lexeme.WellSpelled) → tree.WellNumbered
  | .operand operand, each => operand.wellNumbered each
  | .chain _ head tail, each => by
    obtain ⟨front, back⟩ := List.forall_mem_append.1 each
    exact tail.wellNumbered back (head.wellNumbered front)

theorem Chain.wellNumbered {level : Nat} {left tree : Tree} {lexemes : List Lexeme} :
    Chain level left lexemes tree → (∀ lexeme ∈ lexemes, lexeme.WellSpelled) → left.WellNumbered →
      tree.WellNumbered
  | .done, _, before => before
  | .more _ _ operand tail, each, before => by
    obtain ⟨_, behind⟩ := List.forall_mem_cons.1 each
    obtain ⟨front, back⟩ := List.forall_mem_append.1 behind
    exact tail.wellNumbered back ⟨before, operand.wellNumbered front⟩

theorem Operand.wellNumbered {lexemes : List Lexeme} {tree : Tree} :
    Operand lexemes tree → (∀ lexeme ∈ lexemes, lexeme.WellSpelled) → tree.WellNumbered
  | .minus minus operand, each => by
    obtain ⟨_, behind⟩ := List.forall_mem_cons.1 each
    exact wellNumbered_negate minus behind (operand.wellNumbered behind)
  | .primary primary, each => primary.wellNumbered each

theorem Primary.wellNumbered {lexemes : List Lexeme} {tree : Tree} :
    Primary lexemes tree → (∀ lexeme ∈ lexemes, lexeme.WellSpelled) → tree.WellNumbered
  | @Primary.integer lexeme text named, each => by
    have spelled : lexeme.WellSpelled := each lexeme List.mem_cons_self
    rw [Lexeme.WellSpelled, named] at spelled
    exact ⟨⟨false, text.toList, spelled.isDigits⟩, String.ofList_toList⟩
  | @Primary.decimal lexeme text named, each => by
    have writes : lexeme.WritesNumber [lexeme] (text, lexeme.position) := .plain named
    exact writes.exists_text_eq (each lexeme List.mem_cons_self)
  | .string _, _ | .boolean _, _ | .field .., _ | .lookup .., _ | .fieldById .., _
  | .emptyCall .., _ => trivial
  | .brackets _ expression _, each => by
    obtain ⟨_, behind⟩ := List.forall_mem_cons.1 each
    exact expression.wellNumbered (List.forall_mem_append.1 behind).1
  | .call _ _ arguments _, each => by
    obtain ⟨_, _, behind⟩ := List.forall_mem_cons.1 each |>.imp_right List.forall_mem_cons.1
    exact arguments.wellNumbered (List.forall_mem_append.1 behind).1

theorem Arguments.wellNumbered {lexemes : List Lexeme} {trees : List Tree} :
    Arguments lexemes trees → (∀ lexeme ∈ lexemes, lexeme.WellSpelled) → Tree.WellNumberedAll trees
  | .last expression, each => ⟨expression.wellNumbered each, trivial⟩
  | .more expression _ others, each => by
    obtain ⟨front, behind⟩ := List.forall_mem_append.1 each
    obtain ⟨_, back⟩ := List.forall_mem_cons.1 behind
    exact ⟨expression.wellNumbered front, others.wellNumbered back⟩

end

end Grammar

theorem Tree.wellNumbered_of_parse {limits : Limits} {source : String} {tree : Tree}
    (parsed : Tree.parse limits source = .ok tree) : tree.WellNumbered := by
  obtain ⟨lexemes, final, fed, _, derived⟩ := Tree.parse_sound parsed
  have scanned : (Feed.ofSource source).lexemes = .ok (lexemes ++ [final]) := by
    rw [fed, Feed.lexemes_ofLexemes]
  obtain ⟨pieces, _, laid, _, same, _⟩ := Feed.exists_laid scanned
  obtain ⟨rfl, _⟩ := List.append_inj' same rfl
  exact derived.wellNumbered fun lexeme member => (laid.spelled lexeme member).1

namespace Expr

variable {α β : Type} {registry : Registry} {limits : Limits}

/-- A result that finds no fault with the form of a number. -/
def AcceptsNumbers (result : Except Error α) : Prop :=
  ∀ text position, result ≠ .error (.malformed ⟨.invalidNumber text, position⟩)

namespace AcceptsNumbers

theorem ok (value : α) : AcceptsNumbers (.ok value) := nofun

theorem bind {first : Except Error α} {next : α → Except Error β} (start : AcceptsNumbers first)
    (step : ∀ value, AcceptsNumbers (next value)) : AcceptsNumbers (first >>= next) := by
  cases first with
  | ok value => exact step value
  | error error => exact fun text position same => start text position (by cases same; rfl)

/-- What lies too deep is rejected before it is looked at. -/
theorem guard {depth : Nat} {result : Except Error α} (within : AcceptsNumbers result) :
    AcceptsNumbers (if limits.maxDepth < depth then .error .tooLarge else result) := by
  split
  · exact nofun
  · exact within

end AcceptsNumbers

theorem resolveFunction_acceptsNumbers (name : String) (count : Nat) :
    AcceptsNumbers (resolveFunction registry name count) := by
  unfold resolveFunction
  split
  · exact nofun
  · split <;> exact nofun

theorem readString_acceptsNumbers (literal : Quoted) :
    AcceptsNumbers (readString limits literal) := by
  unfold readString
  split <;> exact nofun

theorem readInteger_acceptsNumbers (number : Whole) (position : Position) :
    AcceptsNumbers (readInteger number.text position) := by
  rw [readInteger_eq]
  cases integer? number.negative number.digits <;> exact nofun

theorem readDecimal_acceptsNumbers (number : Fractional) (position : Position) :
    AcceptsNumbers (readDecimal number.text position) := by
  rw [readDecimal_eq]
  cases Decimal.ofDigits? number.negative number.whole number.fraction <;> exact nofun

mutual

theorem buildAt_acceptsNumbers {depth : Nat} : (tree : Tree) → tree.WellNumbered →
    AcceptsNumbers (buildAt registry limits depth tree)
  | .string literal _, _ => by
    rw [buildAt]
    exact .guard (.bind (readString_acceptsNumbers literal) fun _ => .ok _)
  | .integer _ position, formed => by
    obtain ⟨number, rfl⟩ := formed
    rw [buildAt]
    exact .guard (.bind (readInteger_acceptsNumbers number position) fun _ => .ok _)
  | .decimal _ position, formed => by
    obtain ⟨number, rfl⟩ := formed
    rw [buildAt]
    exact .guard (.bind (readDecimal_acceptsNumbers number position) fun _ => .ok _)
  | .boolean _ _, _ => by
    rw [buildAt]
    exact .guard (.ok _)
  | .brackets inner _, formed => by
    rw [buildAt]
    exact .guard (buildAt_acceptsNumbers inner formed)
  | .negation operand _, formed => by
    rw [buildAt]
    exact .guard (.bind (resolveFunction_acceptsNumbers _ _) fun _ =>
      .bind (buildAt_acceptsNumbers operand formed) fun _ => .ok _)
  | .binary op left right _, formed => by
    rw [buildAt]
    refine .guard ?_
    cases op.function? with
    | none => exact nofun
    | some function =>
      exact .bind (resolveFunction_acceptsNumbers _ _) fun _ =>
        .bind (buildAt_acceptsNumbers left formed.1) fun _ =>
          .bind (buildAt_acceptsNumbers right formed.2) fun _ => .ok _
  | .call _ args _, formed => by
    rw [buildAt]
    exact .guard (.bind (resolveFunction_acceptsNumbers _ _) fun _ =>
      .bind (buildAllAt_acceptsNumbers args formed) fun _ => .ok _)
  | .field name _, _ => by
    rw [buildAt]
    exact .guard (.bind (readString_acceptsNumbers name) fun _ => .ok _)
  | .lookup via target _, _ => by
    rw [buildAt]
    refine .guard (.bind (readString_acceptsNumbers via) fun link =>
      .bind (readString_acceptsNumbers target) fun field => ?_)
    split <;> exact nofun
  | .fieldById _ _, _ => by
    rw [buildAt]
    exact .guard nofun

theorem buildAllAt_acceptsNumbers {depth : Nat} : (trees : List Tree) →
    Tree.WellNumberedAll trees → AcceptsNumbers (buildAllAt registry limits depth trees)
  | [], _ => by
    rw [buildAllAt]
    exact .ok _
  | tree :: trees, formed => by
    rw [buildAllAt]
    exact .bind (buildAt_acceptsNumbers tree formed.1) fun _ =>
      .bind (buildAllAt_acceptsNumbers trees formed.2) fun _ => .ok _

end

end Expr

/-! Numerals with gaps around them. -/

theorem Gap.boundary {text : List Char} (gap : Gap text) : Token.Boundary text := by
  cases gap with
  | none => exact nofun
  | blank white _ =>
    apply Token.Edge.boundary
    rintro _ ⟨⟩
    exact white
  | lineComment _ _ | blockComment _ _ =>
    rintro _ ⟨⟩
    decide

theorem FinalGap.boundary {text : List Char} (final : FinalGap text) : Token.Boundary text := by
  cases text with
  | nil => exact nofun
  | cons c text => exact final.gap_newline.boundary

namespace Scanner

variable {gap text after : List Char} {position : Position}

theorem gives_gap {token : Token} (front : Gap gap) (spells : Spells token text after)
    (inside : token ≠ .endOfInput) (position : Position) :
    Gives ⟨gap ++ (text ++ after), position⟩
      [⟨token, String.ofList text, position.after gap⟩]
      ⟨after, (position.after gap).after text⟩ :=
  .next ((next_gap front).trans (spells _)) inside .none

end Scanner

namespace Numeral.Whole

variable {lead gap digits trail source : List Char} {number : Whole} {position : Position}

/-- A source holds a number that starts at a place, and nothing else. -/
def WrittenIn (number : Whole) (source : List Char) (position : Position) : Prop :=
  ∀ limits, Tree.parse limits (String.ofList source) = .ok (.integer number.text position)

theorem writtenIn_of_gives {lexemes : List Lexeme} {place : Position}
    (given : Scanner.Gives ⟨source, .start⟩ lexemes ⟨trail, place⟩) (final : FinalGap trail)
    (operand : Grammar.Operand lexemes (.integer number.text position)) :
    number.WrittenIn source position := by
  intro limits
  have derived := (Grammar.Expression.operand operand).loosen (Nat.zero_le 6)
  rw [Tree.parse_complete limits (given.ofSource_eq final) rfl derived, if_pos]
  exact Nat.succ_le_succ (Nat.zero_le _)

theorem writtenIn_digits (front : Gap lead) (valid : isDigits digits = true)
    (final : FinalGap trail) :
    WrittenIn ⟨false, digits, valid⟩ (lead ++ digits ++ trail) (.behind lead) := by
  have spells := Scanner.spells_integer valid final.boundary
  have given := Scanner.gives_gap front spells (by simp) .start
  rw [← List.append_assoc, Position.start_after] at given
  exact writtenIn_of_gives given final (.primary (.integer rfl))

theorem operand_signed {sign lexeme : Lexeme} (valid : isDigits digits = true)
    (minus : sign.token = .operator .subtract)
    (spelled : lexeme.token = .integer (String.ofList digits)) :
    Grammar.Operand [sign, lexeme] (.integer (text ⟨true, digits, valid⟩) sign.position) := by
  have operand := Grammar.Operand.minus minus (.primary (.integer spelled))
  rwa [Grammar.negate_integer spelled, ← text_of_negative digits valid] at operand

/-- The sign is where the number starts, whatever lies between it and the digits. -/
theorem writtenIn_signed (front : Gap lead) (inner : Gap gap) (valid : isDigits digits = true)
    (final : FinalGap trail) :
    WrittenIn ⟨true, digits, valid⟩ (lead ++ '-' :: (gap ++ digits) ++ trail) (.behind lead) := by
  have minus : Scanner.Spells (.operator .subtract) ['-'] (gap ++ (digits ++ trail)) :=
    Scanner.spells_printed _ (by decide)
  have spells := Scanner.spells_integer valid final.boundary
  have given := (Scanner.gives_gap front minus (by simp) .start).append
    (Scanner.gives_gap inner spells (by simp) _)
  have whole : lead ++ (['-'] ++ (gap ++ (digits ++ trail))) =
      lead ++ '-' :: (gap ++ digits) ++ trail := by simp
  rw [whole, List.singleton_append, Position.start_after] at given
  exact writtenIn_of_gives given final (operand_signed valid rfl rfl)

end Numeral.Whole

namespace Compiler

variable {compiler : Compiler} {source : List Char} {number : Whole} {position : Position}

theorem read_of_writtenIn (written : number.WrittenIn source position) :
    compiler.read (String.ofList source) =
      (Expr.readInteger number.text position >>= fun value => .ok (.integer value ())) := by
  rw [read, parse, written, ok_bind, build, Expr.build, Expr.buildAt, if_neg (Nat.not_lt_zero _)]
  rfl

theorem exists_read_of_writtenIn (written : number.WrittenIn source position)
    (least : -2 ^ 63 ≤ number.toInt) (most : number.toInt < 2 ^ 63) :
    ∃ value : Int64, value.toInt = number.toInt ∧
      compiler.read (String.ofList source) = .ok (.integer value ()) := by
  have same : (Int64.ofInt number.toInt).toInt = number.toInt := Int64.toInt_ofInt_of_le least most
  refine ⟨_, same, ?_⟩
  rw [read_of_writtenIn written, Expr.readInteger_eq_ok_iff.2 same]
  rfl

theorem read_of_writtenIn_beyond (written : number.WrittenIn source position)
    (beyond : number.toInt < -2 ^ 63 ∨ 2 ^ 63 ≤ number.toInt) :
    compiler.read (String.ofList source) =
      .error (.malformed ⟨.numberOutOfRange number.text, position⟩) := by
  rw [read_of_writtenIn written, Expr.readInteger_eq_error_iff.2 beyond]
  rfl

/-- Whole numbers are read exactly. Digits with gaps around them are read to the number that they are
worth below `2 ^ 63`, and behind a minus sign to its negative up to `2 ^ 63`; any other ones are out
of range in the place where the number starts. No number of any source is at fault for its form. -/
theorem read_integers_exactly (compiler : Compiler) :
    (∀ lead digits trail, Gap lead → isDigits digits = true → FinalGap trail →
      (worth digits ≤ 2 ^ 63 - 1 → ∃ value : Int64, value.toInt = worth digits ∧
        compiler.read (String.ofList (lead ++ digits ++ trail)) = .ok (.integer value ())) ∧
      (2 ^ 63 - 1 < worth digits →
        compiler.read (String.ofList (lead ++ digits ++ trail)) =
          .error (.malformed ⟨.numberOutOfRange (String.ofList digits), .behind lead⟩))) ∧
    (∀ lead gap digits trail, Gap lead → Gap gap → isDigits digits = true → FinalGap trail →
      (worth digits ≤ 2 ^ 63 → ∃ value : Int64, value.toInt = -worth digits ∧
        compiler.read (String.ofList (lead ++ '-' :: (gap ++ digits) ++ trail)) =
          .ok (.integer value ())) ∧
      (2 ^ 63 < worth digits →
        compiler.read (String.ofList (lead ++ '-' :: (gap ++ digits) ++ trail)) =
          .error (.malformed ⟨.numberOutOfRange (String.ofList ('-' :: digits)), .behind lead⟩))) ∧
    ∀ limits source tree, Tree.parse limits source = .ok tree → ∀ text position,
      compiler.build tree ≠ .error (.malformed ⟨.invalidNumber text, position⟩) := by
  refine ⟨?_, ?_, ?_⟩
  · intro lead digits trail front valid final
    have written := Whole.writtenIn_digits front valid final
    have number : Whole.toInt ⟨false, digits, valid⟩ = worth digits := rfl
    constructor
    · intro fits
      rw [← number]
      exact exists_read_of_writtenIn written (by omega) (by omega)
    · intro beyond
      exact read_of_writtenIn_beyond written (by omega)
  · intro lead gap digits trail front inner valid final
    have written := Whole.writtenIn_signed front inner valid final
    have number : Whole.toInt ⟨true, digits, valid⟩ = -worth digits := rfl
    constructor
    · intro fits
      rw [← number]
      exact exists_read_of_writtenIn written (by omega) (by omega)
    · intro beyond
      exact read_of_writtenIn_beyond written (by omega)
  · intro limits source tree parsed
    exact Expr.buildAt_acceptsNumbers tree (Tree.wellNumbered_of_parse parsed)

/-- The least number is read with a comment behind its sign and a zero before its digits, while its
magnitude is out of range without the sign, on the second line; and a sign before a fraction brings
in no fault. -/
theorem read_integers_exactly_of_least :
    (∃ value : Int64, value.toInt = -9223372036854775808 ∧
      Compiler.read {} "-/*-*/09223372036854775808" = .ok (.integer value ())) ∧
    Compiler.read {} "\n9223372036854775808//" =
      .error (.malformed ⟨.numberOutOfRange "9223372036854775808", ⟨2, 0⟩⟩) ∧
    Tree.parse {} "-007.50" = .ok (.decimal "-007.50" ⟨1, 0⟩) ∧
    ∀ text position, Compiler.build {} (.decimal "-007.50" ⟨1, 0⟩) ≠
      .error (.malformed ⟨.invalidNumber text, position⟩) := by
  obtain ⟨unsigned, signed, formed⟩ := read_integers_exactly {}
  have comment : Gap "/*-*/".toList := @Gap.blockComment ['-'] [] (by decide) .none
  have newline : Gap "\n".toList := .blank (by decide) .none
  have opened : FinalGap "//".toList := @FinalGap.lineComment [] [] .none (by simp)
  have parsed : Tree.parse {} "-007.50" = .ok (.decimal "-007.50" ⟨1, 0⟩) := by decide +kernel
  refine ⟨?_, ?_, parsed, formed _ _ _ parsed⟩
  · exact (signed [] _ "09223372036854775808".toList [] .none comment (by decide)
      (.closed .none)).1 (by decide)
  · exact (unsigned _ "9223372036854775808".toList _ newline (by decide) opened).2 (by decide)

end Compiler

end FieldFormula
