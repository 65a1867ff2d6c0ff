import FieldFormula.Proofs.Grammar
import FieldFormula.Tree.Parser

/-! What parsers do to the cursor. `Passes` records the lexemes that a run moves over, for any feed;
`Cursor.before` is the cursor on a list of lexemes without faults, on which moving is taking the
head off the list. -/

namespace FieldFormula

namespace Cursor

/-- The cursor moves over these lexemes, the first of which is in view. -/
inductive Passes : Cursor → List Lexeme → Cursor → Prop
  | none {cursor : Cursor} : Passes cursor [] cursor
  | next {cursor last : Cursor} {lexeme : Lexeme} {feed : Feed} {lexemes : List Lexeme}
      (moved : cursor.feed.next = (.ok lexeme, feed)) (others : Passes ⟨lexeme, feed⟩ lexemes last) :
      Passes cursor (cursor.current :: lexemes) last

theorem Passes.append {first middle last : Cursor} {before after : List Lexeme}
    (front : Passes first before middle) (back : Passes middle after last) :
    Passes first (before ++ after) last := by
  induction front with
  | none => exact back
  | next moved _ ih => exact .next moved (ih back)

theorem Passes.cons {first middle last : Cursor} {lexemes : List Lexeme}
    (front : Passes first [first.current] middle) (back : Passes middle lexemes last) :
    Passes first (first.current :: lexemes) last :=
  front.append back

/-- The first lexeme that is passed is the one in view. -/
theorem Passes.head_eq {first last : Cursor} {lexeme : Lexeme} {lexemes : List Lexeme}
    (passes : Passes first (lexeme :: lexemes) last) : first.current = lexeme := by
  cases passes with
  | next => rfl

/-- The cursor before lexemes that are followed by `final` for ever. -/
def before (final : Lexeme) : List Lexeme → Cursor
  | [] => ⟨final, ⟨[], .ok final⟩⟩
  | lexeme :: lexemes => ⟨lexeme, ⟨lexemes.map .ok, .ok final⟩⟩

variable {final lexeme : Lexeme} {lexemes : List Lexeme}

@[simp] theorem current_before_cons : (before final (lexeme :: lexemes)).current = lexeme := rfl

@[simp] theorem current_before_nil : (before final []).current = final := rfl

/-- Whether no operator in view binds as tightly as `lowest`. -/
def Stops (lowest : Nat) (cursor : Cursor) : Prop :=
  ∀ op, cursor.current.token = .operator op → op.precedence < lowest

theorem stops_or_joins (lowest : Nat) (cursor : Cursor) :
    cursor.Stops lowest ∨ ∃ op, cursor.current.token = .operator op ∧ lowest ≤ op.precedence := by
  by_cases joins : ∃ op, cursor.current.token = .operator op ∧ lowest ≤ op.precedence
  · exact .inr joins
  · refine .inl fun op spelled => ?_
    have looser : ¬ lowest ≤ op.precedence := fun tight => joins ⟨op, spelled, tight⟩
    omega

theorem Stops.mono {lowest higher : Nat} {cursor : Cursor} (stops : cursor.Stops lowest)
    (le : lowest ≤ higher) : cursor.Stops higher :=
  fun op spelled => Nat.lt_of_lt_of_le (stops op spelled) le

end Cursor

namespace Parse

open Cursor

variable {α β : Type} {cursor last : Cursor}

theorem bind_eq_ok {first : Parse α} {second : α → Parse β} {result : β}
    (parsed : (first >>= second) cursor = .ok result last) :
    ∃ value middle, first cursor = .ok value middle ∧ second value middle = .ok result last := by
  change EStateM.bind first second cursor = .ok result last at parsed
  unfold EStateM.bind at parsed
  split at parsed
  · next value middle found => exact ⟨value, middle, found, parsed⟩
  · cases parsed

theorem bind_of_ok {first : Parse α} {second : α → Parse β} {value : α} {middle : Cursor}
    (found : first cursor = .ok value middle) :
    (first >>= second) cursor = second value middle := by
  change EStateM.bind first second cursor = _
  simp only [EStateM.bind, found]

theorem bind_of_error {first : Parse α} {second : α → Parse β} {error : Error}
    {middle : Cursor} (found : first cursor = .error error middle) :
    (first >>= second) cursor = .error error middle := by
  change EStateM.bind first second cursor = _
  simp only [EStateM.bind, found]

theorem current_bind (next : Lexeme → Parse β) :
    (current >>= next) cursor = next cursor.current cursor := rfl

theorem mismatch_ne_ok {expecting : Expectation} {result : α} :
    mismatch expecting cursor ≠ .ok result last := nofun

theorem advance_eq_ok {lexeme : Lexeme} (moved : advance cursor = .ok lexeme last) :
    Passes cursor [cursor.current] last := by
  unfold advance at moved
  split at moved
  · next found =>
    cases moved
    exact .next found .none
  · cases moved

/-! An operand is read by what stands behind its first sign. -/

section Signed

open Grammar

variable {inner operand : Parse Tree} {middle : Cursor} {sign : Lexeme} {text : String}

theorem signed_primary (unsigned : cursor.current.token ≠ .operator .subtract) :
    signed inner operand cursor = primary inner cursor := by
  unfold signed
  rw [current_bind, if_neg unsigned]

variable (spelled : cursor.current.token = .operator .subtract)

include spelled

theorem advance_of_signed {tree : Tree} (parsed : signed inner operand cursor = .ok tree last) :
    ∃ sign middle, advance cursor = .ok sign middle := by
  unfold signed at parsed
  rw [current_bind, if_pos spelled] at parsed
  obtain ⟨sign, middle, moved, _⟩ := bind_eq_ok parsed
  exact ⟨sign, middle, moved⟩

variable (moved : advance cursor = .ok sign middle)

include moved

theorem signed_integer (numeral : middle.current.token = .integer text) :
    signed inner operand cursor =
      (do let _ ← advance; return .integer ("-" ++ text) cursor.current.position : Parse Tree)
        middle := by
  unfold signed
  rw [current_bind, if_pos spelled, bind_of_ok moved, current_bind]
  simp only [numeral]

theorem signed_decimal (numeral : middle.current.token = .decimal text) :
    signed inner operand cursor =
      (do let _ ← advance; return .decimal ("-" ++ text) cursor.current.position : Parse Tree)
        middle := by
  unfold signed
  rw [current_bind, if_pos spelled, bind_of_ok moved, current_bind]
  simp only [numeral]

theorem signed_negation (other : NoNumeral middle.current.token) :
    signed inner operand cursor =
      (do let tree ← operand; return .negation tree cursor.current.position : Parse Tree)
        middle := by
  unfold signed
  rw [current_bind, if_pos spelled, bind_of_ok moved, current_bind]
  generalize middle.current.token = token at other
  cases token
  case integer => exact absurd rfl (other.1 _)
  case decimal => exact absurd rfl (other.2 _)
  all_goals rfl

end Signed

/-! A chain ends before a looser operator and takes any other one in. -/

section Chain

variable {operand : Nat → Parse Tree} {lowest room : Nat} {left : Tree} {op : Operator}
  {next : Operator → Position → Parse Tree}

theorem join_stop (stops : cursor.Stops lowest) : join lowest left next cursor = .ok left cursor := by
  rw [join, current_bind]
  cases spelled : cursor.current.token
  case operator op =>
    simp only [Token.operator?, if_pos (stops op spelled)]
    rfl
  all_goals rfl

theorem chain_stop (stops : cursor.Stops lowest) :
    chain operand lowest room left cursor = .ok left cursor := by
  cases room <;> exact join_stop stops

variable (spelled : cursor.current.token = .operator op) (joins : lowest ≤ op.precedence)

include spelled joins

theorem join_operator :
    join lowest left next cursor =
      (do let _ ← advance; next op cursor.current.position : Parse Tree) cursor := by
  rw [join, current_bind, spelled]
  simp only [Token.operator?, if_neg (Nat.not_lt.2 joins)]

theorem chain_zero :
    chain operand lowest 0 left cursor =
      (do let _ ← advance; throw .tooLarge : Parse Tree) cursor :=
  join_operator spelled joins

theorem chain_succ :
    chain operand lowest (room + 1) left cursor =
      (do
        let _ ← advance
        let right ← operand (op.precedence + 1)
        chain operand lowest room (.binary op left right cursor.current.position) : Parse Tree)
          cursor :=
  join_operator spelled joins

end Chain

end Parse

end FieldFormula
