import FieldFormula.Expr.Print
import FieldFormula.Proofs.Expr.Check
import FieldFormula.Proofs.Expr.Collect
import FieldFormula.Proofs.Expr.Mirror
import FieldFormula.Proofs.Scanner

/-! Printed formulas are read as they were meant: for every expression that sources are built to,
both layouts print a text, and its lexemes derive a tree that writes the expression out. -/

namespace FieldFormula

open Grammar Scanner Token

/-- The functions of a registry are named by ASCII identifiers other than the keywords. -/
def Registry.PlainlyNamed (registry : Registry) : Prop :=
  ∀ entry ∈ registry.functions.entries,
    isIdentifier entry.2.name.toList = true ∧ entry.2.name ∉ keywords

theorem Token.boundary_cons {c : Char} {after : List Char} (ends : continuesName c = false)
    (noPoint : c ≠ '.') : Boundary (c :: after) := by
  rintro _ ⟨⟩
  exact ⟨ends, noPoint⟩

theorem Token.boundary_nil : Boundary [] := nofun

namespace Layout

def gap : Layout → List Char
  | compact => []
  | pretty => [' ']

theorem gap_blank (layout : Layout) : ∀ c ∈ layout.gap, Text.isWhitespace c = true := by
  intro c member
  cases layout with
  | compact => cases member
  | pretty =>
    cases List.mem_singleton.1 member
    decide

theorem toList_oneLine (layout : Layout) (function : String) (items : List String) :
    (layout.oneLine function items).toList = function.toList ++
      (['('] ++ ((',' :: layout.gap).intercalate (items.map String.toList) ++ ([] ++ [')']))) := by
  have separator : layout.separator.toList = ',' :: layout.gap := by cases layout <;> decide
  simp [oneLine, String.toList_intercalate, separator]

def newLine (indent : Nat) : List Char :=
  '\n' :: (margin indent).toList

theorem newLine_blank (indent : Nat) : ∀ c ∈ newLine indent, Text.isWhitespace c = true := by
  intro c member
  rcases List.mem_cons.1 member with rfl | margin
  · decide
  · rw [Layout.margin, String.toList_ofList] at margin
    rw [List.eq_of_mem_replicate margin]
    decide

theorem intercalate_map_append (first : List Char) {items : List (List Char)} (nonempty : items ≠ []) :
    [',', '\n'].intercalate (items.map (first ++ ·)) =
      first ++ (',' :: '\n' :: first).intercalate items := by
  induction items with
  | nil => exact absurd rfl nonempty
  | cons item items ih =>
    cases items with
    | nil => simp
    | cons next others =>
      have rest := ih (List.cons_ne_nil _ _)
      rw [List.map_cons] at rest
      rw [List.map_cons, List.map_cons, List.intercalate_cons_cons, rest,
        List.intercalate_cons_cons]
      simp

theorem toList_manyLines (indent : Nat) (function : String) {items : List String}
    (nonempty : items ≠ []) :
    (manyLines indent function items).toList = function.toList ++ (['('] ++
      ((newLine (indent + 1) ++
        (',' :: newLine (indent + 1)).intercalate (items.map String.toList)) ++
          (newLine indent ++ [')']))) := by
  have lines := intercalate_map_append (margin (indent + 1)).toList
    (by simpa using nonempty : items.map String.toList ≠ [])
  have mapped : (items.map (margin (indent + 1) ++ ·)).map String.toList =
      (items.map String.toList).map ((margin (indent + 1)).toList ++ ·) := by
    simp
  have comma : ",\n".toList = [',', '\n'] := by decide
  simp only [manyLines, String.toList_append, String.toList_intercalate, mapped, comma, lines,
    newLine]
  simp

end Layout

namespace Scanner

variable {text inner after gap : List Char} {form result : List Lexeme → Prop} {token : Token}

theorem yields_name {name : List Char} (valid : isIdentifier name = true)
    (named : ofName name = token) (inside : token ≠ .endOfInput) (boundary : Boundary after) :
    Yields name after (Single token) := by
  have words := isWord_of_isIdentifier valid
  have first := (Bool.and_eq_true_iff.1 valid).1
  cases name with
  | nil => cases first
  | cons c rest =>
    have noDigit : c.isDigit = false := by simpa using first
    subst named
    exact .of_spells (spells_name noDigit words boundary) inside

theorem yields_symbol (c : Char) (token : Token) (member : (c, token) ∈ printed) :
    Yields [c] after (Single token) := by
  refine .of_spells (spells_printed after member) ?_
  rintro rfl
  simp [printed] at member

/-- A name with brackets behind it, and blanks before the closing one. -/
theorem yields_bracketed {name trail : List Char} (token : Token) (valid : isIdentifier name = true)
    (named : ofName name = token) (inside : token ≠ .endOfInput)
    (blank : ∀ c ∈ trail, Text.isWhitespace c = true)
    (yields : Yields inner (trail ++ ')' :: after) form)
    (join : ∀ {keyword opening closing : Lexeme} {lexemes : List Lexeme}, keyword.token = token →
      opening.token = .openBracket → form lexemes → closing.token = .closeBracket →
        result (keyword :: opening :: (lexemes ++ [closing]))) :
    Yields (name ++ (['('] ++ (inner ++ (trail ++ [')'])))) after result := by
  have closing : Yields (trail ++ [')']) after (Single .closeBracket) :=
    .blanks blank (by rintro _ ⟨⟩; exact List.cons_ne_nil _ _) (yields_symbol _ _ (by decide))
  have body : Yields inner (trail ++ [')'] ++ after) form := by
    rwa [List.append_assoc]
  have front : Boundary (['('] ++ (inner ++ (trail ++ [')'])) ++ after) :=
    boundary_cons (by decide) (by decide)
  have brackets : Yields (['('] ++ (inner ++ (trail ++ [')']))) after
      (Then (Single .openBracket) (Then form (Single .closeBracket))) :=
    (yields_symbol '(' _ (by decide)).append (body.append closing)
  refine ((yields_name valid named inside front).append brackets).mono ?_
  rintro _ ⟨⟨spelled⟩, ⟨⟨opens⟩, ⟨formed, ⟨closes⟩⟩⟩⟩
  exact join spelled opens formed closes

/-- A minus sign is folded into the numeral that it stands before. -/
theorem yields_numeral {text : String} {number : Int} {body : List Char} {kind : String → Token}
    {leaf : String → Position → Tree} (spelled : text.toList = Numeral.sign number ++ body)
    (alone : ∀ {lexeme : Lexeme} {spelling : String}, lexeme.token = kind spelling →
      Primary [lexeme] (leaf spelling lexeme.position))
    (negated : ∀ {sign lexeme : Lexeme} {spelling : String} {tree : Tree},
      lexeme.token = kind spelling →
        negate sign [lexeme] tree = leaf ("-" ++ spelling) sign.position)
    (yields : Yields body after (Single (kind (String.ofList body)))) :
    Yields text.toList after fun lexemes => ∃ position, Operand lexemes (leaf text position) := by
  have whole : text = String.ofList (Numeral.sign number ++ body) := by
    rw [← spelled, String.ofList_toList]
  rw [spelled, whole, Numeral.sign]
  split
  · have signed : Yields (['-'] ++ body) after
        (Then (Single (.operator .subtract)) (Single (kind (String.ofList body)))) :=
      (yields_symbol '-' _ (by decide)).append yields
    refine signed.mono ?_
    rintro _ ⟨@⟨sign, minus⟩, @⟨lexeme, numeral⟩⟩
    have operand := Operand.minus minus (.primary (alone numeral))
    rw [negated numeral] at operand
    refine ⟨sign.position, ?_⟩
    rw [String.ofList_append]
    exact operand
  · refine yields.mono ?_
    rintro _ @⟨lexeme, numeral⟩
    exact ⟨lexeme.position, .primary (alone numeral)⟩

theorem yields_integer {text : String} {number : Int}
    (spelled : text.toList = Numeral.sign number ++ Nat.toDigits 10 number.natAbs)
    (boundary : Boundary after) :
    Yields text.toList after fun lexemes => ∃ position, Operand lexemes (.integer text position) :=
  yields_numeral spelled .integer (fun numeral => negate_integer numeral)
    (.of_spells (spells_integer (Numeral.isDigits_toDigits _) boundary) nofun)

theorem yields_decimal {text : String} {number : Int} {whole fraction : List Char}
    (spelled : text.toList = Numeral.sign number ++ (whole ++ '.' :: fraction))
    (wholeValid : Numeral.isDigits whole = true) (fractionValid : Numeral.isDigits fraction = true)
    (boundary : Boundary after) :
    Yields text.toList after fun lexemes => ∃ position, Operand lexemes (.decimal text position) :=
  yields_numeral spelled .decimal (fun numeral => negate_decimal numeral)
    (.of_spells (spells_decimal wholeValid fractionValid boundary) nofun)

end Scanner

namespace Expr

variable {after : List Char}

/-- Lexemes derive a tree that writes an expression out. -/
inductive Written (expr : Expr Unit) : List Lexeme → Prop
  | intro {lexemes : List Lexeme} {tree : Tree} (derived : Operand lexemes tree)
      (mirrors : Mirrors tree expr) : Written expr lexemes

/-- A text stands for an expression, whatever follows that cannot continue it. -/
def Spelled (text : String) (expr : Expr Unit) : Prop :=
  ∀ after, Boundary after → Yields text.toList after (Written expr)

inductive SpelledAll : List String → List (Expr Unit) → Prop
  | nil : SpelledAll [] []
  | cons {text : String} {texts : List String} {expr : Expr Unit} {exprs : List (Expr Unit)}
      (first : Spelled text expr) (others : SpelledAll texts exprs) :
      SpelledAll (text :: texts) (expr :: exprs)

theorem yields_literal {literal : Quoted} (wellFormed : literal.WellFormed) :
    Yields literal.spelling.toList after (Single (.string literal)) :=
  .of_spells (spells_string wellFormed after) nofun

theorem spelled_string {value : String} {literal : Quoted}
    (written : Quoted.ofValue? value = some literal) :
    Spelled literal.spelling (.string value ()) := by
  obtain ⟨wellFormed, rfl⟩ := Quoted.of_ofValue? written
  intro after _
  refine (yields_literal wellFormed).mono ?_
  rintro _ ⟨spelled⟩
  exact .intro (.primary (.string spelled)) .string

theorem spelled_integer (value : Int64) :
    Spelled (toString value.toInt) (.integer value ()) := by
  intro after boundary
  refine (yields_integer (Numeral.toList_toString _) boundary).mono ?_
  rintro _ ⟨position, derived⟩
  exact .intro derived .integer

theorem spelled_decimal (value : Decimal) : Spelled value.text (.decimal value ()) := by
  intro after boundary
  by_cases flat : value.scale = 0
  · refine (yields_integer (Decimal.toList_text_of_whole flat) boundary).mono ?_
    rintro _ ⟨position, derived⟩
    exact .intro derived (.whole flat)
  · have fractional := Nat.pos_of_ne_zero flat
    obtain ⟨whole, fraction, wholeValid, fractionValid, spelled, _⟩ :=
      Decimal.exists_toList_text fractional
    refine (yields_decimal spelled wholeValid fractionValid boundary).mono ?_
    rintro _ ⟨position, derived⟩
    exact .intro derived (.decimal fractional)

theorem spelled_boolean (value : Bool) :
    Spelled (if value then "true" else "false") (.boolean value ()) := by
  intro after boundary
  have yields : Yields (if value then "true" else "false").toList after
      (Single (.boolean value)) := by
    cases value
    · exact yields_name (by decide) (by decide) nofun boundary
    · exact yields_name (by decide) (by decide) nofun boundary
  refine yields.mono ?_
  rintro _ ⟨spelled⟩
  exact .intro (.primary (.boolean spelled)) .boolean

theorem spelled_field {field : String} {literal : Quoted}
    (written : Quoted.ofValue? field = some literal) :
    Spelled ("field(" ++ literal.spelling ++ ")") (.reference field none ()) := by
  obtain ⟨wellFormed, rfl⟩ := Quoted.of_ofValue? written
  intro after _
  have text : ("field(" ++ literal.spelling ++ ")").toList =
      "field".toList ++ (['('] ++ (literal.spelling.toList ++ ([] ++ [')']))) := by
    simp
  rw [text]
  refine yields_bracketed .field (by decide) (by decide) nofun nofun (yields_literal wellFormed) ?_
  rintro keyword opening closing _ spelled opens ⟨named⟩ closes
  exact .intro (.primary (.field spelled opens named closes)) .field

theorem spelled_lookup (layout : Layout) {link field : String} {via target : Quoted}
    (linkWritten : Quoted.ofValue? link = some via)
    (fieldWritten : Quoted.ofValue? field = some target) :
    Spelled (layout.oneLine "lookup" [via.spelling, target.spelling])
      (.reference field (some link) ()) := by
  obtain ⟨viaWellFormed, rfl⟩ := Quoted.of_ofValue? linkWritten
  obtain ⟨targetWellFormed, rfl⟩ := Quoted.of_ofValue? fieldWritten
  intro after _
  have names : (',' :: layout.gap).intercalate ([via.spelling, target.spelling].map String.toList) =
      via.spelling.toList ++ ([','] ++ (layout.gap ++ target.spelling.toList)) := by
    simp
  rw [Layout.toList_oneLine, names]
  have second : Yields (layout.gap ++ target.spelling.toList) ([] ++ ')' :: after)
      (Single (.string target)) :=
    .blanks layout.gap_blank (by rintro _ ⟨⟩; exact List.cons_ne_nil _ _)
      (yields_literal targetWellFormed)
  refine yields_bracketed .lookup (by decide) (by decide) nofun nofun
    ((yields_literal viaWellFormed).append ((yields_symbol ',' .comma (by decide)).append second)) ?_
  rintro keyword opening closing _ spelled opens ⟨⟨linked⟩, ⟨⟨separated⟩, ⟨named⟩⟩⟩ closes
  exact .intro (.primary (.lookup spelled opens linked separated named closes)) .lookup

inductive WrittenAll (exprs : List (Expr Unit)) : List Lexeme → Prop
  | intro {lexemes : List Lexeme} {trees : List Tree} (derived : Arguments lexemes trees)
      (mirrors : MirrorsAll trees exprs) : WrittenAll exprs lexemes

theorem WrittenAll.ne_nil {exprs : List (Expr Unit)} {lexemes : List Lexeme} :
    WrittenAll exprs lexemes → lexemes ≠ []
  | .intro derived _ => derived.ne_nil

theorem Written.expression {expr : Expr Unit} {lexemes : List Lexeme} :
    Written expr lexemes → ∃ tree, Expression 0 lexemes tree ∧ Mirrors tree expr
  | .intro derived mirrors => ⟨_, (Expression.operand derived).loosen (Nat.zero_le _), mirrors⟩

/-- Arguments are read one by one, with a comma and blanks between any two. -/
theorem SpelledAll.yields {gap : List Char} {items : List String} {exprs : List (Expr Unit)}
    (spelled : SpelledAll items exprs) (nonempty : exprs ≠ [])
    (blank : ∀ c ∈ gap, Text.isWhitespace c = true) (boundary : Boundary after) :
    Yields ((',' :: gap).intercalate (items.map String.toList)) after (WrittenAll exprs) := by
  induction spelled with
  | nil => exact absurd rfl nonempty
  | @cons text texts expr exprs first others ih =>
    cases others with
    | nil =>
      rw [List.map_cons, List.map_nil, List.intercalate_singleton]
      refine (first after boundary).mono ?_
      intro lexemes written
      obtain ⟨tree, derived, mirrors⟩ := written.expression
      exact .intro (.last derived) (.cons mirrors .nil)
    | @cons second seconds next nexts spelled rest =>
      rw [List.map_cons, List.map_cons, List.intercalate_cons_cons, ← List.map_cons,
        List.append_assoc]
      have behind := (ih (List.cons_ne_nil _ _)).blanks blank WrittenAll.ne_nil
      have separated := (yields_symbol ',' .comma (by decide)).append behind
      refine ((first _ (boundary_cons (by decide) (by decide))).append separated).mono ?_
      rintro _ ⟨written, ⟨⟨comma⟩, ⟨arguments, others⟩⟩⟩
      obtain ⟨tree, derived, mirrors⟩ := written.expression
      exact .intro (.more derived comma arguments) (.cons mirrors others)

/-- A call is read whatever blanks stand before its arguments and before the closing bracket. -/
theorem spelled_call {text function : String} {items : List String} {args : List (Expr Unit)}
    {lead gap trail : List Char} (valid : isIdentifier function.toList = true)
    (named : ofName function.toList = .identifier function) (spelled : SpelledAll items args)
    (nonempty : args ≠ []) (leadBlank : ∀ c ∈ lead, Text.isWhitespace c = true)
    (gapBlank : ∀ c ∈ gap, Text.isWhitespace c = true)
    (trailBlank : ∀ c ∈ trail, Text.isWhitespace c = true)
    (ends : ∀ after, Boundary (trail ++ ')' :: after))
    (printed : text.toList = function.toList ++ (['('] ++
      ((lead ++ (',' :: gap).intercalate (items.map String.toList)) ++ (trail ++ [')'])))) :
    Spelled text (.call function args ()) := by
  intro after _
  rw [printed]
  have arguments := (spelled.yields nonempty gapBlank (ends after)).blanks leadBlank WrittenAll.ne_nil
  refine yields_bracketed (.identifier function) valid named nofun trailBlank arguments ?_
  rintro keyword opening closing _ name opens ⟨derived, mirrors⟩ closes
  exact .intro (.primary (.call name opens derived closes)) (.call mirrors)

theorem spelled_emptyCall (layout : Layout) {function : String}
    (valid : isIdentifier function.toList = true)
    (named : ofName function.toList = .identifier function) :
    Spelled (layout.oneLine function []) (.call function [] ()) := by
  intro after _
  have nothing : Yields [] ([] ++ ')' :: after) (· = []) :=
    fun position => ⟨[], position, .none, rfl⟩
  rw [Layout.toList_oneLine, List.map_nil, List.intercalate_nil]
  refine yields_bracketed (.identifier function) valid named nofun nofun nothing ?_
  rintro keyword opening closing _ name opens rfl closes
  exact .intro (.primary (.emptyCall name opens closes)) (.call .nil)

theorem SpelledAll.ne_nil {items : List String} {exprs : List (Expr Unit)} :
    SpelledAll items exprs → exprs ≠ [] → items ≠ []
  | .nil, nonempty => absurd rfl nonempty
  | .cons _ _, _ => List.cons_ne_nil _ _

theorem spelled_oneLine (layout : Layout) {function : String} {items : List String}
    {args : List (Expr Unit)} (valid : isIdentifier function.toList = true)
    (named : ofName function.toList = .identifier function) (spelled : SpelledAll items args) :
    Spelled (layout.oneLine function items) (.call function args ()) := by
  cases spelled with
  | nil => exact spelled_emptyCall layout valid named
  | cons first others =>
    have noBlank : ∀ c ∈ ([] : List Char), Text.isWhitespace c = true := nofun
    exact spelled_call valid named (.cons first others) (List.cons_ne_nil _ _) noBlank
      layout.gap_blank noBlank (fun _ => boundary_cons (by decide) (by decide))
      (Layout.toList_oneLine layout function _)

theorem spelled_manyLines (indent : Nat) {function : String} {items : List String}
    {args : List (Expr Unit)} (valid : isIdentifier function.toList = true)
    (named : ofName function.toList = .identifier function) (spelled : SpelledAll items args)
    (nonempty : args ≠ []) :
    Spelled (Layout.manyLines indent function items) (.call function args ()) :=
  spelled_call valid named spelled nonempty (Layout.newLine_blank _) (Layout.newLine_blank _)
    (Layout.newLine_blank _) (fun _ => boundary_cons (by decide) (by decide))
    (Layout.toList_manyLines indent function (spelled.ne_nil nonempty))

theorem quote_eq_ok_iff {value text : String} :
    quote value = .ok text ↔ ∃ literal, Quoted.ofValue? value = some literal ∧
      literal.spelling = text := by
  unfold quote
  cases Quoted.ofValue? value <;> simp

theorem printAt_field_eq_ok_iff {α : Type} {layout : Layout} {indent : Nat} {field text : String}
    {note : α} :
    printAt layout indent (.reference field none note) = .ok text ↔
      ∃ literal, Quoted.ofValue? field = some literal ∧ "field(" ++ literal.spelling ++ ")" = text := by
  rw [printAt]
  constructor
  · intro printed
    obtain ⟨name, quoted, same⟩ := bind_eq_ok_iff.1 printed
    obtain ⟨literal, written, rfl⟩ := quote_eq_ok_iff.1 quoted
    cases same
    exact ⟨literal, written, rfl⟩
  · rintro ⟨literal, written, rfl⟩
    exact bind_eq_ok_iff.2 ⟨_, quote_eq_ok_iff.2 ⟨literal, written, rfl⟩, rfl⟩

theorem printAt_lookup_eq_ok_iff {α : Type} {layout : Layout} {indent : Nat}
    {field link text : String} {note : α} :
    printAt layout indent (.reference field (some link) note) = .ok text ↔
      ∃ via target, Quoted.ofValue? link = some via ∧ Quoted.ofValue? field = some target ∧
        layout.oneLine "lookup" [via.spelling, target.spelling] = text := by
  rw [printAt]
  constructor
  · intro printed
    obtain ⟨_, quotedVia, printed⟩ := bind_eq_ok_iff.1 printed
    obtain ⟨_, quotedTarget, same⟩ := bind_eq_ok_iff.1 printed
    obtain ⟨via, viaWritten, rfl⟩ := quote_eq_ok_iff.1 quotedVia
    obtain ⟨target, targetWritten, rfl⟩ := quote_eq_ok_iff.1 quotedTarget
    cases same
    exact ⟨via, target, viaWritten, targetWritten, rfl⟩
  · rintro ⟨via, target, viaWritten, targetWritten, rfl⟩
    refine bind_eq_ok_iff.2 ⟨_, quote_eq_ok_iff.2 ⟨via, viaWritten, rfl⟩, ?_⟩
    exact bind_eq_ok_iff.2 ⟨_, quote_eq_ok_iff.2 ⟨target, targetWritten, rfl⟩, rfl⟩

theorem spelledAll_of_printAllAt {layout : Layout} {indent : Nat} {args : List (Expr Unit)}
    {items : List String}
    (each : ∀ arg ∈ args, ∀ text, printAt layout indent arg = .ok text → Spelled text arg)
    (printed : printAllAt layout indent args = .ok items) : SpelledAll items args := by
  induction args generalizing items with
  | nil =>
    cases printed
    exact .nil
  | cons arg args ih =>
    rw [List.forall_mem_cons] at each
    rw [printAllAt] at printed
    obtain ⟨text, here, printed⟩ := bind_eq_ok_iff.1 printed
    obtain ⟨texts, behind, same⟩ := bind_eq_ok_iff.1 printed
    cases same
    exact .cons (each.1 text here) (ih each.2 behind)

/-- Whatever is printed stands for the expression, as long as the names of its functions are read as
such. -/
theorem spelled_of_printAt {layout : Layout} {indent : Nat} {expr : Expr Unit} {text : String}
    (named : ∀ function, Calls expr function → isIdentifier function.toList = true ∧
      ofName function.toList = .identifier function)
    (printed : printAt layout indent expr = .ok text) : Spelled text expr := by
  induction expr using induction_on_args generalizing indent text with
  | string value note =>
    obtain ⟨literal, written, rfl⟩ := quote_eq_ok_iff.1 printed
    exact spelled_string written
  | integer value note =>
    cases printed
    exact spelled_integer value
  | decimal value note =>
    cases printed
    exact spelled_decimal value
  | boolean value note =>
    cases printed
    exact spelled_boolean value
  | reference field via note =>
    cases via with
    | none =>
      obtain ⟨literal, written, rfl⟩ := printAt_field_eq_ok_iff.1 printed
      exact spelled_field written
    | some link =>
      obtain ⟨via, target, viaWritten, targetWritten, rfl⟩ := printAt_lookup_eq_ok_iff.1 printed
      exact spelled_lookup layout viaWritten targetWritten
  | call function args note ih =>
    obtain ⟨valid, spelling⟩ := named function .call
    have each (indent : Nat) (arg : Expr Unit) (member : arg ∈ args) (text : String) :
        printAt layout indent arg = .ok text → Spelled text arg :=
      ih arg member fun function inside => named function (.argument member inside)
    rw [printAt] at printed
    split at printed
    · next lines =>
      obtain ⟨items, inside, same⟩ := bind_eq_ok_iff.1 printed
      cases same
      refine spelled_manyLines indent valid spelling (spelledAll_of_printAllAt (each _) inside) ?_
      rintro rfl
      cases lines.2
    · obtain ⟨items, inside, same⟩ := bind_eq_ok_iff.1 printed
      cases same
      exact spelled_oneLine layout valid spelling (spelledAll_of_printAllAt (each _) inside)

variable {registry : Registry} {limits : Limits}

theorem AdmissibleAll.of_mem {depth : Nat} {args : List (Expr Unit)} {arg : Expr Unit}
    (admissible : AdmissibleAll registry limits depth args) (member : arg ∈ args) :
    Admissible registry limits depth arg := by
  induction args with
  | nil => cases member
  | cons first others ih =>
    cases admissible with
    | cons head tail =>
      rcases List.mem_cons.1 member with rfl | behind
      · exact head
      · exact ih tail behind

/-- The functions that an admissible expression calls are found under their own names. -/
theorem Admissible.exists_of_calls {depth : Nat} {expr : Expr Unit} {function : String}
    (admissible : Admissible registry limits depth expr) (calls : Calls expr function) :
    ∃ definition, registry.get? function = some definition ∧ definition.name = function ∧
      Callable function := by
  induction calls generalizing depth with
  | call =>
    cases admissible with
    | call _ resolved callable _ =>
      exact ⟨_, (resolveFunction_eq_ok_iff.1 resolved).1, rfl, callable⟩
  | argument member _ ih =>
    cases admissible with
    | call _ _ _ inside => exact ih (inside.of_mem member)

theorem Admissible.named (plain : registry.PlainlyNamed) {depth : Nat} {expr : Expr Unit}
    {function : String} (admissible : Admissible registry limits depth expr)
    (calls : Calls expr function) : isIdentifier function.toList = true ∧
      ofName function.toList = .identifier function := by
  obtain ⟨definition, found, rfl, callable⟩ := admissible.exists_of_calls calls
  obtain ⟨valid, other⟩ := plain _ (Registry.mem_of_get? found)
  exact ⟨valid, callable.ofName_eq valid other⟩

mutual

/-- An admissible expression can be printed in every layout. -/
theorem Admissible.exists_printAt (layout : Layout) {depth : Nat} {expr : Expr Unit} :
    Admissible registry limits depth expr → ∀ indent,
      ∃ text, printAt layout indent expr = .ok text
  | .string _ writable => fun _ => by
    obtain ⟨literal, written⟩ := writable.quoted
    exact ⟨_, quote_eq_ok_iff.2 ⟨literal, written, rfl⟩⟩
  | .integer _ | .decimal _ _ | .boolean _ => fun _ => ⟨_, rfl⟩
  | .field _ writable => fun _ => by
    obtain ⟨literal, written⟩ := writable.quoted
    exact ⟨_, printAt_field_eq_ok_iff.2 ⟨literal, written, rfl⟩⟩
  | .lookup _ linkWritable fieldWritable _ => fun _ => by
    obtain ⟨via, linkWritten⟩ := linkWritable.quoted
    obtain ⟨target, fieldWritten⟩ := fieldWritable.quoted
    exact ⟨_, printAt_lookup_eq_ok_iff.2 ⟨via, target, linkWritten, fieldWritten, rfl⟩⟩
  | .call _ _ _ inside => fun indent => by
    rw [printAt]
    split
    · obtain ⟨items, printed⟩ := inside.exists_printAllAt layout (indent + 1)
      exact ⟨_, bind_eq_ok_iff.2 ⟨items, printed, rfl⟩⟩
    · obtain ⟨items, printed⟩ := inside.exists_printAllAt layout indent
      exact ⟨_, bind_eq_ok_iff.2 ⟨items, printed, rfl⟩⟩

theorem AdmissibleAll.exists_printAllAt (layout : Layout) {depth : Nat} {exprs : List (Expr Unit)} :
    AdmissibleAll registry limits depth exprs → ∀ indent,
      ∃ items, printAllAt layout indent exprs = .ok items
  | .nil => fun _ => ⟨[], rfl⟩
  | .cons first others => fun indent => by
    obtain ⟨text, printed⟩ := first.exists_printAt layout indent
    obtain ⟨items, printedOthers⟩ := others.exists_printAllAt layout indent
    exact ⟨_, bind_eq_ok_iff.2 ⟨text, printed, bind_eq_ok_iff.2 ⟨items, printedOthers, rfl⟩⟩⟩

end

/-- In every layout an admissible expression is printed as a text that stands for it. -/
theorem Admissible.printAt_eq_ok (plain : registry.PlainlyNamed) (layout : Layout) {depth : Nat}
    {expr : Expr Unit} (admissible : Admissible registry limits depth expr) (indent : Nat) :
    ∃ text, printAt layout indent expr = .ok text ∧ Spelled text expr := by
  obtain ⟨text, printed⟩ := admissible.exists_printAt layout indent
  exact ⟨text, printed, spelled_of_printAt (fun _ => admissible.named plain) printed⟩

end Expr

end FieldFormula
