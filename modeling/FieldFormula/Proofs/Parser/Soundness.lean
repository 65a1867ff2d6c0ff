import FieldFormula.Proofs.Grammar
import FieldFormula.Proofs.Parser.Cursor

/-! Whatever a parser returns is derived by the grammar from the lexemes that it moved over. This
holds for every feed, with faults in it or not, and for every budget. -/

namespace FieldFormula.Parse

open Cursor Grammar

variable {cursor last : Cursor} {tree : Tree}

/-- Every result of a parser is derived from the lexemes that were passed. -/
def Sound {α : Type} (parser : Parse α) (derives : List Lexeme → α → Prop) : Prop :=
  ∀ ⦃cursor last : Cursor⦄ ⦃result : α⦄, parser cursor = .ok result last →
    ∃ lexemes, Passes cursor lexemes last ∧ derives lexemes result

theorem expect_eq_ok {token : Token} {expecting : Expectation} {result : Unit}
    (parsed : expect token expecting cursor = .ok result last) :
    cursor.current.token = token ∧ Passes cursor [cursor.current] last := by
  unfold expect at parsed
  rw [current_bind] at parsed
  split at parsed
  · next spelled =>
    obtain ⟨_, middle, moved, same⟩ := bind_eq_ok parsed
    cases same
    exact ⟨spelled, advance_eq_ok moved⟩
  · exact absurd parsed mismatch_ne_ok

theorem quoted_eq_ok {literal : Quoted} (parsed : quoted cursor = .ok literal last) :
    cursor.current.token = .string literal ∧ Passes cursor [cursor.current] last := by
  unfold quoted at parsed
  rw [current_bind] at parsed
  cases spelled : cursor.current.token <;> simp only [spelled] at parsed
  case string literal =>
    obtain ⟨_, middle, moved, same⟩ := bind_eq_ok parsed
    cases same
    exact ⟨rfl, advance_eq_ok moved⟩
  all_goals exact absurd parsed mismatch_ne_ok

theorem integer_eq_ok {text : String} (parsed : integer cursor = .ok text last) :
    cursor.current.token = .integer text ∧ Passes cursor [cursor.current] last := by
  unfold integer at parsed
  rw [current_bind] at parsed
  cases spelled : cursor.current.token <;> simp only [spelled] at parsed
  case integer text =>
    obtain ⟨_, middle, moved, same⟩ := bind_eq_ok parsed
    cases same
    exact ⟨rfl, advance_eq_ok moved⟩
  all_goals exact absurd parsed mismatch_ne_ok

/-- A literal is a single lexeme, and its tree is returned once the lexeme is passed. -/
theorem advance_return_eq_ok {result : Tree}
    (parsed : (do let _ ← advance; return tree : Parse Tree) cursor = .ok result last) :
    result = tree ∧ Passes cursor [cursor.current] last := by
  obtain ⟨_, middle, moved, same⟩ := bind_eq_ok parsed
  cases same
  exact ⟨rfl, advance_eq_ok moved⟩

theorem field_sound (spelled : cursor.current.token = .field)
    (parsed : field cursor.current.position cursor = .ok tree last) :
    ∃ lexemes, Passes cursor lexemes last ∧ Primary lexemes tree := by
  obtain ⟨_, _, moved, parsed⟩ := bind_eq_ok parsed
  obtain ⟨_, _, opened, parsed⟩ := bind_eq_ok parsed
  obtain ⟨_, _, named, parsed⟩ := bind_eq_ok parsed
  obtain ⟨_, _, closed, same⟩ := bind_eq_ok parsed
  cases same
  obtain ⟨opens, passOpening⟩ := expect_eq_ok opened
  obtain ⟨names, passName⟩ := quoted_eq_ok named
  obtain ⟨closes, passClosing⟩ := expect_eq_ok closed
  exact ⟨_, (advance_eq_ok moved).cons (passOpening.cons (passName.cons passClosing)),
    .field spelled opens names closes⟩

theorem lookup_sound (spelled : cursor.current.token = .lookup)
    (parsed : lookup cursor.current.position cursor = .ok tree last) :
    ∃ lexemes, Passes cursor lexemes last ∧ Primary lexemes tree := by
  obtain ⟨_, _, moved, parsed⟩ := bind_eq_ok parsed
  obtain ⟨_, _, opened, parsed⟩ := bind_eq_ok parsed
  obtain ⟨_, _, linked, parsed⟩ := bind_eq_ok parsed
  obtain ⟨_, _, separated, parsed⟩ := bind_eq_ok parsed
  obtain ⟨_, _, named, parsed⟩ := bind_eq_ok parsed
  obtain ⟨_, _, closed, same⟩ := bind_eq_ok parsed
  cases same
  obtain ⟨opens, passOpening⟩ := expect_eq_ok opened
  obtain ⟨links, passLink⟩ := quoted_eq_ok linked
  obtain ⟨separates, passComma⟩ := expect_eq_ok separated
  obtain ⟨names, passName⟩ := quoted_eq_ok named
  obtain ⟨closes, passClosing⟩ := expect_eq_ok closed
  exact ⟨_, (advance_eq_ok moved).cons
      (passOpening.cons (passLink.cons (passComma.cons (passName.cons passClosing)))),
    .lookup spelled opens links separates names closes⟩

theorem fieldById_sound (spelled : cursor.current.token = .fieldById)
    (parsed : fieldById cursor.current.position cursor = .ok tree last) :
    ∃ lexemes, Passes cursor lexemes last ∧ Primary lexemes tree := by
  obtain ⟨_, _, moved, parsed⟩ := bind_eq_ok parsed
  obtain ⟨_, _, opened, parsed⟩ := bind_eq_ok parsed
  obtain ⟨_, _, numbered, parsed⟩ := bind_eq_ok parsed
  obtain ⟨_, _, closed, same⟩ := bind_eq_ok parsed
  cases same
  obtain ⟨opens, passOpening⟩ := expect_eq_ok opened
  obtain ⟨numbers, passNumber⟩ := integer_eq_ok numbered
  obtain ⟨closes, passClosing⟩ := expect_eq_ok closed
  exact ⟨_, (advance_eq_ok moved).cons (passOpening.cons (passNumber.cons passClosing)),
    .fieldById spelled opens numbers closes⟩

section Nested

variable {inner operand : Parse Tree} (innerSound : Sound inner (Expression 0))

include innerSound

theorem brackets_sound (spelled : cursor.current.token = .openBracket)
    (parsed : brackets inner cursor.current.position cursor = .ok tree last) :
    ∃ lexemes, Passes cursor lexemes last ∧ Primary lexemes tree := by
  obtain ⟨_, _, moved, parsed⟩ := bind_eq_ok parsed
  obtain ⟨_, _, nested, parsed⟩ := bind_eq_ok parsed
  obtain ⟨_, _, closed, same⟩ := bind_eq_ok parsed
  cases same
  obtain ⟨lexemes, passInner, expression⟩ := innerSound nested
  obtain ⟨closes, passClosing⟩ := expect_eq_ok closed
  exact ⟨_, (advance_eq_ok moved).cons (passInner.append passClosing),
    .brackets spelled expression closes⟩

/-- Arguments are derived from what stands before the closing bracket. -/
theorem arguments_sound {room : Nat} {trees : List Tree}
    (parsed : arguments inner room cursor = .ok trees last) :
    ∃ lexemes closing, Passes cursor (lexemes ++ [closing]) last ∧ Arguments lexemes trees ∧
      closing.token = .closeBracket := by
  induction room generalizing cursor trees with
  | zero => exact absurd parsed mismatch_ne_ok
  | succ room ih =>
    obtain ⟨first, middle, found, parsed⟩ := bind_eq_ok parsed
    obtain ⟨lexemes, passFirst, expression⟩ := innerSound found
    rw [current_bind] at parsed
    cases spelled : middle.current.token <;> simp only [spelled] at parsed
    case comma =>
      obtain ⟨_, _, moved, parsed⟩ := bind_eq_ok parsed
      obtain ⟨others, _, found, same⟩ := bind_eq_ok parsed
      cases same
      obtain ⟨rest, closing, passRest, arguments, closes⟩ := ih found
      refine ⟨lexemes ++ middle.current :: rest, closing, ?_, .more expression spelled arguments,
        closes⟩
      simpa only [List.append_assoc, List.cons_append] using
        passFirst.append ((advance_eq_ok moved).cons passRest)
    case closeBracket =>
      obtain ⟨_, _, moved, same⟩ := bind_eq_ok parsed
      cases same
      exact ⟨lexemes, middle.current, passFirst.append (advance_eq_ok moved), .last expression,
        spelled⟩
    all_goals exact absurd parsed mismatch_ne_ok

theorem call_sound {name : String} (spelled : cursor.current.token = .identifier name)
    (parsed : call inner name cursor.current.position cursor = .ok tree last) :
    ∃ lexemes, Passes cursor lexemes last ∧ Primary lexemes tree := by
  obtain ⟨_, _, moved, parsed⟩ := bind_eq_ok parsed
  obtain ⟨_, _, opened, parsed⟩ := bind_eq_ok parsed
  obtain ⟨opens, passOpening⟩ := expect_eq_ok opened
  rw [current_bind] at parsed
  split at parsed
  · next closes =>
    obtain ⟨rfl, passClosing⟩ := advance_return_eq_ok parsed
    exact ⟨_, (advance_eq_ok moved).cons (passOpening.cons passClosing),
      .emptyCall spelled opens closes⟩
  · obtain ⟨_, _, enough, parsed⟩ := bind_eq_ok parsed
    cases enough
    obtain ⟨args, _, found, same⟩ := bind_eq_ok parsed
    cases same
    obtain ⟨lexemes, closing, passArgs, arguments, closes⟩ := arguments_sound innerSound found
    exact ⟨_, (advance_eq_ok moved).cons (passOpening.cons passArgs),
      .call spelled opens arguments closes⟩

theorem primary_sound : Sound (primary inner) Primary := by
  intro cursor last tree parsed
  unfold primary at parsed
  rw [current_bind] at parsed
  cases spelled : cursor.current.token <;> simp only [spelled] at parsed
  case string literal =>
    obtain ⟨rfl, passed⟩ := advance_return_eq_ok parsed
    exact ⟨_, passed, .string spelled⟩
  case integer text =>
    obtain ⟨rfl, passed⟩ := advance_return_eq_ok parsed
    exact ⟨_, passed, .integer spelled⟩
  case decimal text =>
    obtain ⟨rfl, passed⟩ := advance_return_eq_ok parsed
    exact ⟨_, passed, .decimal spelled⟩
  case boolean value =>
    obtain ⟨rfl, passed⟩ := advance_return_eq_ok parsed
    exact ⟨_, passed, .boolean spelled⟩
  case openBracket => exact brackets_sound innerSound spelled parsed
  case field => exact field_sound spelled parsed
  case lookup => exact lookup_sound spelled parsed
  case fieldById => exact fieldById_sound spelled parsed
  case identifier name => exact call_sound innerSound spelled parsed
  all_goals exact absurd parsed mismatch_ne_ok

end Nested

/-- A sign that is not directly before a numeral is a level of its own. -/
theorem signed_sound {inner operand : Parse Tree} (innerSound : Sound inner (Expression 0))
    (operandSound : Sound operand Operand) : Sound (signed inner operand) Operand := by
  intro cursor last tree parsed
  by_cases spelled : cursor.current.token = .operator .subtract
  · obtain ⟨_, middle, moved⟩ := advance_of_signed spelled parsed
    have passSign := advance_eq_ok moved
    obtain ⟨text, numeral⟩ | ⟨text, numeral⟩ | other := numeral_cases middle.current.token
    · rw [signed_integer spelled moved numeral] at parsed
      obtain ⟨rfl, passed⟩ := advance_return_eq_ok parsed
      rw [← negate_integer numeral]
      exact ⟨_, passSign.cons passed, .minus spelled (.primary (.integer numeral))⟩
    · rw [signed_decimal spelled moved numeral] at parsed
      obtain ⟨rfl, passed⟩ := advance_return_eq_ok parsed
      rw [← negate_decimal numeral]
      exact ⟨_, passSign.cons passed, .minus spelled (.primary (.decimal numeral))⟩
    · rw [signed_negation spelled moved other] at parsed
      obtain ⟨_, _, found, same⟩ := bind_eq_ok parsed
      cases same
      obtain ⟨lexemes, passed, derived⟩ := operandSound found
      cases lexemes with
      | nil => exact absurd derived.height_lt (Nat.not_lt_zero _)
      | cons first lexemes =>
        obtain rfl := passed.head_eq
        rw [← negate_other other]
        exact ⟨_, passSign.cons passed, .minus spelled derived⟩
  · rw [signed_primary spelled] at parsed
    obtain ⟨lexemes, passed, derived⟩ := primary_sound innerSound parsed
    exact ⟨lexemes, passed, .primary derived⟩

/-- What a parser for a level returns is derived on that level, and no operator of the level is left
in view. -/
def LevelSound (parser : Nat → Parse Tree) : Prop :=
  ∀ ⦃lowest : Nat⦄ ⦃cursor last : Cursor⦄ ⦃tree : Tree⦄, lowest ≤ 6 →
    parser lowest cursor = .ok tree last →
    ∃ lexemes, Passes cursor lexemes last ∧ Expression lowest lexemes tree ∧ last.Stops lowest

section Chain

variable {operand : Nat → Parse Tree} {lowest room level : Nat} {left : Tree} {front : List Lexeme}

theorem chain_sound_of_stops (parsed : chain operand lowest room left cursor = .ok tree last)
    (derived : Expression level front left) (above : lowest ≤ level)
    (stopped : cursor.Stops lowest) :
    ∃ lexemes, Passes cursor lexemes last ∧ Expression lowest (front ++ lexemes) tree ∧
      last.Stops lowest := by
  rw [chain_stop stopped] at parsed
  cases parsed
  refine ⟨[], .none, ?_, stopped⟩
  simpa only [List.append_nil] using derived.loosen above

/-- The left operand is always an expression of a level whose tighter operators are not in view, so
each operator that is folded onto it belongs to the same level or a looser one. -/
theorem chain_sound (operandSound : LevelSound operand)
    (parsed : chain operand lowest room left cursor = .ok tree last)
    (derived : Expression level front left) (above : lowest ≤ level)
    (stops : cursor.Stops (level + 1)) :
    ∃ lexemes, Passes cursor lexemes last ∧ Expression lowest (front ++ lexemes) tree ∧
      last.Stops lowest := by
  induction room generalizing cursor left front level with
  | zero =>
    obtain stopped | ⟨op, spelled, joins⟩ := stops_or_joins lowest cursor
    · exact chain_sound_of_stops parsed derived above stopped
    · rw [chain_zero spelled joins] at parsed
      obtain ⟨_, _, _, thrown⟩ := bind_eq_ok parsed
      cases thrown
  | succ room ih =>
    obtain stopped | ⟨op, spelled, joins⟩ := stops_or_joins lowest cursor
    · exact chain_sound_of_stops parsed derived above stopped
    · rw [chain_succ spelled joins] at parsed
      obtain ⟨_, _, moved, parsed⟩ := bind_eq_ok parsed
      obtain ⟨right, next, found, parsed⟩ := bind_eq_ok parsed
      obtain ⟨lexemes, passRight, rightDerived, rightStops⟩ := operandSound (precedence_lt op) found
      have folded := (derived.loosen (Nat.le_of_lt_succ (stops op spelled))).join spelled
        (mem_operatorsAt_iff.2 rfl) rightDerived
      obtain ⟨rest, passRest, restDerived, restStops⟩ := ih parsed folded joins rightStops
      refine ⟨cursor.current :: (lexemes ++ rest), ?_, ?_, restStops⟩
      · exact (advance_eq_ok moved).cons (passRight.append passRest)
      · simpa only [List.append_assoc, List.cons_append] using restDerived

end Chain

/-- The parsers of one budget rest on those of the next smaller one. -/
theorem unary_level_sound (budget : Nat) :
    Sound (unary budget) Operand ∧ LevelSound (level budget) := by
  induction budget with
  | zero =>
    constructor
    · intro cursor last tree parsed
      cases parsed
    · intro lowest cursor last tree bound parsed
      cases parsed
  | succ budget ih =>
    obtain ⟨unarySound, levelSound⟩ := ih
    have innerSound : Sound (level budget 0) (Expression 0) := by
      intro cursor last tree parsed
      obtain ⟨lexemes, passed, derived, _⟩ := levelSound (Nat.zero_le 6) parsed
      exact ⟨lexemes, passed, derived⟩
    have operandSound := signed_sound innerSound unarySound
    refine ⟨operandSound, ?_⟩
    intro lowest cursor last tree bound parsed
    obtain ⟨left, middle, found, parsed⟩ := bind_eq_ok parsed
    obtain ⟨front, passFront, derived⟩ := operandSound found
    have stops : middle.Stops 7 := fun op _ => Nat.lt_succ_of_lt (precedence_lt op)
    obtain ⟨lexemes, passed, expression, lastStops⟩ :=
      chain_sound levelSound parsed (.operand derived) bound stops
    exact ⟨front ++ lexemes, passFront.append passed, expression, lastStops⟩

theorem formula_sound {limits : Limits} (parsed : formula limits cursor = .ok tree last) :
    ∃ lexemes, Passes cursor lexemes last ∧ Expression 0 lexemes tree ∧
      last.current.token = .endOfInput := by
  obtain ⟨found, middle, parsedTree, parsed⟩ := bind_eq_ok parsed
  rw [current_bind] at parsed
  split at parsed
  · next ended =>
    cases parsed
    obtain ⟨lexemes, passed, derived, _⟩ := (unary_level_sound _).2 (Nat.zero_le 6) parsedTree
    exact ⟨lexemes, passed, derived, ended⟩
  · exact absurd parsed mismatch_ne_ok

end FieldFormula.Parse
