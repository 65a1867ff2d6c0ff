import FieldFormula.Proofs.Parser.Exactness

/-! How far the parser looks. It passes a lexeme only where the grammar has a use for it, so what it
has passed can always be continued; and it never looks beyond the lexeme in view, so it does the same
on any other input with the same lexemes up to there. -/

namespace FieldFormula

instance instInhabitedQuoted : Inhabited Quoted := ⟨"", .single⟩

instance instInhabitedTree : Inhabited Tree := ⟨.boolean true .start⟩

namespace Cursor

/-- A cursor moves over lexemes and then has another one in view. -/
structure Sees (passed : List Lexeme) (view : Lexeme) (cursor last : Cursor) : Prop where
  regular : cursor.feed.Regular
  passes : Passes cursor passed last
  inView : last.current = view

variable {cursor middle last other final : Cursor} {passed further : List Lexeme} {view : Lexeme}

theorem Passes.split (passes : Passes cursor (passed ++ further) last) :
    ∃ middle, Passes cursor passed middle ∧ Passes middle further last := by
  induction passed generalizing cursor with
  | nil => exact ⟨cursor, .none, passes⟩
  | cons lexeme passed ih =>
    rw [List.cons_append] at passes
    cases passes with
    | next moved others =>
      obtain ⟨middle, front, back⟩ := ih others
      exact ⟨middle, .next moved front, back⟩

/-- The answers behind a regular feed are regular. -/
theorem regular_of_next {feed rest : Feed} {lexeme : Lexeme} (regular : feed.Regular)
    (moved : feed.next = (.ok lexeme, rest)) : rest.Regular := by
  cases regular with
  | ended ended =>
    cases moved
    exact .ended ended
  | fault => cases moved
  | lexeme _ others =>
    cases moved
    exact others

theorem Passes.regular (passes : Passes cursor passed last) (regular : cursor.feed.Regular) :
    last.feed.Regular := by
  induction passes with
  | none => exact regular
  | next moved _ ih => exact ih (regular_of_next regular moved)

/-- Each lexeme that is passed before the end takes one answer off the feed. -/
theorem Passes.length_eq (passes : Passes cursor passed last) (regular : cursor.feed.Regular)
    (inside : last.current.token ≠ .endOfInput) :
    last.feed.steps.length + passed.length = cursor.feed.steps.length := by
  induction passes with
  | none => rfl
  | @next cursor last lexeme feed lexemes moved others ih =>
    have rest := ih (regular_of_next regular moved) inside
    obtain ⟨current, source⟩ := cursor
    cases regular with
    | ended ended =>
      cases moved
      have none : lexemes.length = 0 := Nat.le_zero.1 (Nat.le_of_add_left_le (Nat.le_of_eq rest))
      obtain rfl := List.length_eq_zero_iff.1 none
      cases others
      exact absurd ended inside
    | fault => cases moved
    | lexeme _ _ =>
      cases moved
      simp only [List.length_cons] at rest ⊢
      omega

theorem length_next_le (feed : Feed) : feed.next.2.steps.length ≤ feed.steps.length := by
  obtain ⟨steps, last⟩ := feed
  cases steps with
  | nil => exact Nat.le_refl _
  | cons step steps => exact Nat.le_succ _

namespace Sees

theorem append (front : Sees passed middle.current cursor middle)
    (back : Sees further view middle last) : Sees (passed ++ further) view cursor last :=
  ⟨front.regular, front.passes.append back.passes, back.inView⟩

/-- What is in view behind the first lexemes is the next one of them, or the last view. -/
theorem split (behind : Sees further view middle last)
    (there : Sees (passed ++ further) view other final) :
    ∃ between, Sees passed middle.current other between ∧ Sees further view between final := by
  obtain ⟨between, front, back⟩ := there.passes.split
  refine ⟨between, ⟨there.regular, front, ?_⟩, front.regular there.regular, back, there.inView⟩
  cases further with
  | nil =>
    cases back
    cases behind.passes
    rw [there.inView, behind.inView]
  | cons lexeme further => rw [back.head_eq, behind.passes.head_eq]

/-- Cursors that see the same lexemes have the same one in view. -/
theorem current_eq (here : Sees passed view cursor last) (there : Sees passed view other final) :
    other.current = cursor.current := by
  cases passed with
  | nil =>
    obtain ⟨_, passes, inView⟩ := there
    cases passes
    obtain ⟨_, passes, inViewHere⟩ := here
    cases passes
    rw [inView, inViewHere]
  | cons lexeme passed => rw [there.passes.head_eq, here.passes.head_eq]

end Sees

end Cursor

namespace Parse

open Cursor

def rejection (found : Lexeme) (expecting : Expectation) : Error :=
  .malformed ⟨.mismatched found.describe expecting, found.position⟩

/-- How a parser for some form of lexemes goes over what is before it. It passes only what can be
continued to the form, and what it answers depends only on what it has passed and on the lexeme
then in view. The form may also speak of that lexeme. -/
inductive Careful {α : Type} (form : List Lexeme → Lexeme → Prop) (parser : Parse α)
    (cursor : Cursor) : Prop
  | returned {value : α} {passed : List Lexeme} {last : Cursor}
      (here : Sees passed last.current cursor last) (formed : form passed last.current)
      (always : ∀ other final, Sees passed last.current other final →
        parser other = .ok value final)
  | rejected {passed : List Lexeme} {last : Cursor} {expecting : Expectation}
      (here : Sees passed last.current cursor last)
      (continued : ∃ rest view, form (passed ++ rest) view)
      (always : ∀ other final, Sees passed last.current other final →
        parser other = .error (rejection last.current expecting) final)
  | exceeded {last : Cursor} (result : parser cursor = .error .tooLarge last)
      (continued : ∃ rest view, form rest view)
  | faulted {passed : List Lexeme} {middle : Cursor} {error : SyntaxError} {feed : Feed}
      (passes : Passes cursor passed middle)
      (continued : ∃ rest view, form (passed ++ middle.current :: rest) view)
      (fault : middle.feed.next = (.error error, feed))
      (result : parser cursor = .error (.malformed error) ⟨middle.current, feed⟩)

namespace Careful

variable {α β : Type} {form other : List Lexeme → Lexeme → Prop} {parser : Parse α} {cursor : Cursor}

/-- There are lexemes of any form that is parsed for. -/
theorem inhabited (careful : Careful form parser cursor) : ∃ rest view, form rest view := by
  cases careful with
  | returned _ formed _ => exact ⟨_, _, formed⟩
  | rejected _ continued _ =>
    obtain ⟨rest, view, formed⟩ := continued
    exact ⟨_, view, formed⟩
  | exceeded _ continued => exact continued
  | faulted _ continued _ _ =>
    obtain ⟨rest, view, formed⟩ := continued
    exact ⟨_, view, formed⟩

/-- It is enough that the parser is careful wherever a certain lexeme is in view. -/
theorem inhabited_of_view {view : Lexeme}
    (careful : ∀ feed : Feed, feed.Regular → Careful form parser ⟨view, feed⟩) :
    ∃ rest view, form rest view := by
  have ended : Feed.Regular ⟨[], .ok ⟨.endOfInput, "", .start⟩⟩ := .ended rfl
  exact (careful _ ended).inhabited

theorem mono (careful : Careful form parser cursor)
    (weaken : ∀ passed view, form passed view → other passed view) :
    Careful other parser cursor := by
  cases careful with
  | returned here formed always => exact .returned here (weaken _ _ formed) always
  | rejected here continued always =>
    obtain ⟨rest, view, formed⟩ := continued
    exact .rejected here ⟨rest, view, weaken _ _ formed⟩ always
  | exceeded result continued =>
    obtain ⟨rest, view, formed⟩ := continued
    exact .exceeded result ⟨rest, view, weaken _ _ formed⟩
  | faulted passes continued fault result =>
    obtain ⟨rest, view, formed⟩ := continued
    exact .faulted passes ⟨rest, view, weaken _ _ formed⟩ fault result

/-- A parser may be replaced by one that does the same with this lexeme in view. -/
theorem congr {replaced : Parse α} (regular : cursor.feed.Regular)
    (careful : Careful form replaced cursor)
    (same : ∀ place : Cursor, place.feed.Regular → place.current = cursor.current →
      parser place = replaced place) : Careful form parser cursor := by
  cases careful with
  | @returned value passed last here formed always =>
    have alwaysSame (place final : Cursor) (there : Sees passed last.current place final) :
        parser place = .ok value final := by
      rw [same place there.regular (here.current_eq there), always place final there]
    exact .returned here formed alwaysSame
  | @rejected passed last expecting here continued always =>
    have alwaysSame (place final : Cursor) (there : Sees passed last.current place final) :
        parser place = .error (rejection last.current expecting) final := by
      rw [same place there.regular (here.current_eq there), always place final there]
    exact .rejected here continued alwaysSame
  | exceeded result continued =>
    exact .exceeded ((same cursor regular rfl).trans result) continued
  | faulted passes continued fault result =>
    exact .faulted passes continued fault ((same cursor regular rfl).trans result)

/-- Two parsers one after the other: what the first has passed belongs to the form of both. -/
theorem bind {first : Parse α} {second : α → Parse β} {part : List Lexeme → Lexeme → Prop}
    (front : Careful part first cursor)
    (grows : ∀ passed view, part passed view → ∃ rest view, form (passed ++ rest) view)
    (back : ∀ passed value middle, Passes cursor passed middle → middle.feed.Regular →
      part passed middle.current →
      Careful (fun rest => form (passed ++ rest)) (second value) middle) :
    Careful form (first >>= second) cursor := by
  cases front with
  | @returned value passed middle here formed always =>
    have reached := always cursor middle here
    have alwaysThrough {further : List Lexeme} {last : Cursor}
        {result : Cursor → EStateM.Result Error Cursor β}
        (behind : Sees further last.current middle last)
        (alwaysBehind : ∀ place final, Sees further last.current place final →
          second value place = result final)
        (place final : Cursor) (there : Sees (passed ++ further) last.current place final) :
        (first >>= second) place = result final := by
      obtain ⟨between, front, back⟩ := behind.split there
      rw [bind_of_ok (always place between front), alwaysBehind between final back]
    cases back passed value middle here.passes (here.passes.regular here.regular) formed with
    | returned behind formedAll alwaysBehind =>
      exact .returned (here.append behind) formedAll (alwaysThrough behind alwaysBehind)
    | rejected behind continued alwaysBehind =>
      obtain ⟨rest, view, formedAll⟩ := continued
      rw [← List.append_assoc] at formedAll
      exact .rejected (here.append behind) ⟨rest, view, formedAll⟩
        (alwaysThrough behind alwaysBehind)
    | exceeded result continued =>
      obtain ⟨rest, view, formedAll⟩ := continued
      exact .exceeded ((bind_of_ok reached).trans result) ⟨_, view, formedAll⟩
    | faulted passes continued fault result =>
      obtain ⟨rest, view, formedAll⟩ := continued
      rw [← List.append_assoc] at formedAll
      exact .faulted (here.passes.append passes) ⟨rest, view, formedAll⟩ fault
        ((bind_of_ok reached).trans result)
  | rejected here continued always =>
    obtain ⟨rest, view, formed⟩ := continued
    obtain ⟨more, last, formedAll⟩ := grows _ _ formed
    rw [List.append_assoc] at formedAll
    exact .rejected here ⟨_, last, formedAll⟩ fun place final there =>
      bind_of_error (always place final there)
  | exceeded result continued =>
    obtain ⟨rest, view, formed⟩ := continued
    obtain ⟨more, last, formedAll⟩ := grows _ _ formed
    exact .exceeded (bind_of_error result) ⟨_, last, formedAll⟩
  | faulted passes continued fault result =>
    obtain ⟨rest, view, formed⟩ := continued
    obtain ⟨more, last, formedAll⟩ := grows _ _ formed
    rw [List.append_assoc] at formedAll
    exact .faulted passes ⟨_, last, formedAll⟩ fault (bind_of_error result)

/-- Where the second parser is careful at every cursor, the form can be reached from the part. -/
theorem andThen {first : Parse α} {second : α → Parse β} {part : List Lexeme → Lexeme → Prop}
    [Inhabited α] (front : Careful part first cursor)
    (back : ∀ passed value middle, middle.feed.Regular → part passed middle.current →
      Careful (fun rest => form (passed ++ rest)) (second value) middle) :
    Careful form (first >>= second) cursor := by
  apply front.bind
  · intro passed view formed
    exact inhabited_of_view fun feed regular => back passed default ⟨view, feed⟩ regular formed
  · intro passed value middle _
    exact back passed value middle

end Careful

variable {α β : Type} {form : List Lexeme → Lexeme → Prop} {cursor : Cursor}

section Steps

variable (regular : cursor.feed.Regular)

include regular

theorem careful_return {value : α} (formed : form [] cursor.current) :
    Careful form (pure value) cursor := by
  have always (place final : Cursor) (there : Sees [] cursor.current place final) :
      (pure value : Parse α) place = .ok value final := by
    obtain ⟨_, passes, _⟩ := there
    cases passes
    rfl
  exact .returned ⟨regular, .none, rfl⟩ formed always

theorem careful_mismatch (expecting : Expectation) (continued : ∃ rest view, form rest view) :
    Careful form (mismatch expecting : Parse α) cursor := by
  have always (place final : Cursor) (there : Sees [] cursor.current place final) :
      (mismatch expecting : Parse α) place = .error (rejection cursor.current expecting) final := by
    obtain ⟨_, passes, inView⟩ := there
    cases passes
    rw [← inView]
    rfl
  exact .rejected ⟨regular, .none, rfl⟩ continued always

theorem careful_current {next : Lexeme → Parse α}
    (following : Careful form (next cursor.current) cursor) :
    Careful form (current >>= next) cursor := by
  apply following.congr regular
  intro place _ same
  rw [current_bind, same]

theorem careful_advance : Careful (fun passed _ => passed = [cursor.current]) advance cursor := by
  cases moved : cursor.feed.next with
  | mk answer feed =>
    cases answer with
    | error error =>
      refine .faulted .none ⟨[], cursor.current, rfl⟩ moved ?_
      simp only [advance, moved]
    | ok lexeme =>
      let last : Cursor := ⟨lexeme, feed⟩
      have here : Sees [cursor.current] last.current cursor last :=
        ⟨regular, .next moved .none, rfl⟩
      have always (place final : Cursor) (there : Sees [cursor.current] last.current place final) :
          advance place = .ok cursor.current final := by
        have passes := there.passes
        rw [← here.current_eq there] at passes ⊢
        cases passes with
        | next movedThere others =>
          cases others
          simp only [advance, movedThere]
      exact .returned here rfl always

/-- The lexeme in view is passed, and what follows it belongs to the same form. -/
theorem careful_pass {next : Parse α}
    (following : ∀ middle : Cursor, middle.feed.Regular →
      Careful (fun rest => form (cursor.current :: rest)) next middle) :
    Careful form (do let _ ← advance; next) cursor := by
  apply (careful_advance regular).bind
  · rintro _ view rfl
    exact Careful.inhabited_of_view fun feed regular => following ⟨view, feed⟩ regular
  · rintro _ _ middle _ regular rfl
    exact following middle regular

theorem careful_single {value : α} (formed : ∀ view, form [cursor.current] view) :
    Careful form (do let _ ← advance; return value) cursor := by
  apply careful_pass regular
  intro middle regular
  exact careful_return regular (formed middle.current)

end Steps

def ofToken (accepts : Token → Prop) (passed : List Lexeme) (_ : Lexeme) : Prop :=
  ∃ lexeme, passed = [lexeme] ∧ accepts lexeme.token

theorem ofToken_inhabited {accepts : Token → Prop} {token : Token} (accepted : accepts token) :
    ∃ rest view, ofToken accepts rest view :=
  ⟨_, ⟨.endOfInput, "", .start⟩, ⟨token, "", .start⟩, rfl, accepted⟩

theorem careful_expect {token : Token} {expecting : Expectation} (regular : cursor.feed.Regular) :
    Careful (ofToken (· = token)) (expect token expecting) cursor := by
  apply careful_current regular
  by_cases spelled : cursor.current.token = token
  · rw [if_pos spelled]
    exact careful_single regular fun _ => ⟨_, rfl, spelled⟩
  · rw [if_neg spelled]
    exact careful_mismatch regular expecting (ofToken_inhabited rfl)

theorem careful_quoted (regular : cursor.feed.Regular) :
    Careful (ofToken fun token => ∃ literal, token = .string literal) quoted cursor := by
  apply careful_current regular
  cases spelled : cursor.current.token with
  | string literal => exact careful_single regular fun _ => ⟨_, rfl, literal, spelled⟩
  | _ => exact careful_mismatch regular _ (ofToken_inhabited ⟨default, rfl⟩)

theorem careful_integer (regular : cursor.feed.Regular) :
    Careful (ofToken fun token => ∃ text, token = .integer text) integer cursor := by
  apply careful_current regular
  cases spelled : cursor.current.token with
  | integer text => exact careful_single regular fun _ => ⟨_, rfl, text, spelled⟩
  | _ => exact careful_mismatch regular _ (ofToken_inhabited ⟨"0", rfl⟩)

theorem careful_token [Inhabited α] {accepts : Token → Prop} {first : Parse α}
    {second : α → Parse β} (front : Careful (ofToken accepts) first cursor)
    (back : ∀ lexeme value middle, accepts lexeme.token → middle.feed.Regular →
      Careful (fun rest => form (lexeme :: rest)) (second value) middle) :
    Careful form (first >>= second) cursor := by
  refine front.andThen ?_
  rintro _ value middle regular ⟨lexeme, rfl, accepted⟩
  exact back lexeme value middle accepted regular

open Grammar

def ofPrimary (passed : List Lexeme) (_ : Lexeme) : Prop :=
  ∃ tree, Primary passed tree

def ofOperand (passed : List Lexeme) (_ : Lexeme) : Prop :=
  ∃ tree, Operand passed tree

/-- The lexemes of an expression of a level, with no operator of the level behind them. -/
def ofLevel (lowest : Nat) (passed : List Lexeme) (view : Lexeme) : Prop :=
  (∃ tree, Expression lowest passed tree) ∧ ∀ op, view.token = .operator op → op.precedence < lowest

def ofArguments (passed : List Lexeme) (_ : Lexeme) : Prop :=
  ∃ lexemes closing trees, passed = lexemes ++ [closing] ∧ Arguments lexemes trees ∧
    closing.token = .closeBracket

/-- A lexeme that is as good as any other with its token. -/
def anyLexeme (token : Token) : Lexeme := ⟨token, "", .start⟩

theorem operand_zero : Operand [anyLexeme (.integer "0")] (.integer "0" .start) :=
  .primary (.integer rfl)

theorem expression_zero {level : Nat} (bound : level ≤ 6) :
    Expression level [anyLexeme (.integer "0")] (.integer "0" .start) :=
  (Expression.operand operand_zero).loosen bound

theorem careful_field (regular : cursor.feed.Regular) (spelled : cursor.current.token = .field)
    (position : Position) : Careful ofPrimary (field position) cursor := by
  refine careful_pass regular fun _ regular => ?_
  refine careful_token (careful_expect regular) fun opening _ _ opens regular => ?_
  refine careful_token (careful_quoted regular) fun name _ _ named regular => ?_
  obtain ⟨literal, named⟩ := named
  refine careful_token (careful_expect regular) fun closing _ _ closes regular => ?_
  exact careful_return regular ⟨_, .field spelled opens named closes⟩

theorem careful_lookup (regular : cursor.feed.Regular) (spelled : cursor.current.token = .lookup)
    (position : Position) : Careful ofPrimary (lookup position) cursor := by
  refine careful_pass regular fun _ regular => ?_
  refine careful_token (careful_expect regular) fun opening _ _ opens regular => ?_
  refine careful_token (careful_quoted regular) fun link _ _ linked regular => ?_
  obtain ⟨via, linked⟩ := linked
  refine careful_token (careful_expect regular) fun comma _ _ separated regular => ?_
  refine careful_token (careful_quoted regular) fun name _ _ named regular => ?_
  obtain ⟨target, named⟩ := named
  refine careful_token (careful_expect regular) fun closing _ _ closes regular => ?_
  exact careful_return regular ⟨_, .lookup spelled opens linked separated named closes⟩

theorem careful_fieldById (regular : cursor.feed.Regular)
    (spelled : cursor.current.token = .fieldById) (position : Position) :
    Careful ofPrimary (fieldById position) cursor := by
  refine careful_pass regular fun _ regular => ?_
  refine careful_token (careful_expect regular) fun opening _ _ opens regular => ?_
  refine careful_token (careful_integer regular) fun number _ _ numbered regular => ?_
  obtain ⟨id, numbered⟩ := numbered
  refine careful_token (careful_expect regular) fun closing _ _ closes regular => ?_
  exact careful_return regular ⟨_, .fieldById spelled opens numbered closes⟩

/-! The room for arguments never runs out: what follows a comma is shorter than what the argument
before it started from. -/

section Room

variable {inner : Parse Tree} (sound : Sound inner (Expression 0))

/-- One argument, and `rest` for those behind a comma. -/
def argumentThen (inner : Parse Tree) (rest : Parse (List Tree)) : Parse (List Tree) := do
  let first ← inner
  match (← current).token with
  | .comma =>
    let _ ← advance
    let others ← rest
    return first :: others
  | .closeBracket =>
    let _ ← advance
    return [first]
  | _ => mismatch .commaOrCloseBracket

theorem length_lt_of_argument {passed : List Lexeme} {middle last : Cursor} {tree : Tree}
    (regular : cursor.feed.Regular) (passes : Passes cursor passed middle)
    (derived : Expression 0 passed tree) (separated : middle.current.token = .comma)
    (further : Passes middle [middle.current] last) :
    last.feed.steps.length < cursor.feed.steps.length := by
  have counted := passes.length_eq regular (by simp [separated])
  have positive := Nat.zero_lt_of_lt derived.height_lt
  have shorter := length_next_le middle.feed
  cases further with
  | next moved others =>
    cases others
    rw [moved] at shorter
    simp only at shorter ⊢
    omega

include sound

theorem argumentThen_congr {rest others : Parse (List Tree)} (regular : cursor.feed.Regular)
    (same : ∀ last : Cursor, last.feed.Regular →
      last.feed.steps.length < cursor.feed.steps.length → rest last = others last) :
    argumentThen inner rest cursor = argumentThen inner others cursor := by
  unfold argumentThen
  cases reached : inner cursor with
  | error error last => rw [bind_of_error reached, bind_of_error reached]
  | ok first middle =>
    obtain ⟨passed, passes, derived⟩ := sound reached
    rw [bind_of_ok reached, bind_of_ok reached, current_bind, current_bind]
    cases spelled : middle.current.token <;> simp only
    case comma =>
      cases moved : advance middle with
      | error error last => rw [bind_of_error moved, bind_of_error moved]
      | ok comma last =>
        have further := advance_eq_ok moved
        have shorter := length_lt_of_argument regular passes derived spelled further
        have regularLast := further.regular (passes.regular regular)
        rw [bind_of_ok moved, bind_of_ok moved]
        simp only [bind, EStateM.bind, same last regularLast shorter]

/-- Any room that holds the lexemes left is as good as another. -/
theorem arguments_eq_of_room {room more : Nat} (regular : cursor.feed.Regular)
    (enough : cursor.feed.steps.length < room) (enoughMore : cursor.feed.steps.length < more) :
    arguments inner room cursor = arguments inner more cursor := by
  induction room generalizing cursor more with
  | zero => omega
  | succ room ih =>
    cases more with
    | zero => omega
    | succ more =>
      refine argumentThen_congr sound regular fun last regularLast shorter => ?_
      exact ih regularLast (by omega) (by omega)

theorem arguments_eq_argumentThen (regular : cursor.feed.Regular) :
    (room >>= arguments inner) cursor = argumentThen inner (room >>= arguments inner) cursor := by
  refine argumentThen_congr sound regular fun last regularLast shorter => ?_
  exact arguments_eq_of_room sound regularLast shorter (Nat.lt_succ_self _)

end Room

section Nested

variable {inner operand : Parse Tree} (sound : Sound inner (Expression 0))
  (careful : ∀ {cursor : Cursor}, cursor.feed.Regular → Careful (ofLevel 0) inner cursor)

include careful

theorem careful_brackets (regular : cursor.feed.Regular)
    (spelled : cursor.current.token = .openBracket) (position : Position) :
    Careful ofPrimary (brackets inner position) cursor := by
  refine careful_pass regular fun _ regular => ?_
  refine (careful regular).andThen fun passed _ _ regular formed => ?_
  obtain ⟨⟨tree, derived⟩, _⟩ := formed
  refine careful_token (careful_expect regular) fun closing _ _ closes regular => ?_
  exact careful_return regular ⟨_, .brackets spelled derived closes⟩

include sound

/-- An argument can always be the last one, and another one can always follow a comma. -/
theorem careful_arguments (regular : cursor.feed.Regular) :
    Careful ofArguments (room >>= arguments inner) cursor := by
  generalize counted : cursor.feed.steps.length = count
  induction count using Nat.strongRecOn generalizing cursor with
  | ind count ih =>
    refine Careful.congr regular (?_ : Careful _ (argumentThen inner (room >>= arguments inner)) _)
      fun place regularPlace _ => arguments_eq_argumentThen sound regularPlace
    let close := anyLexeme .closeBracket
    refine (careful regular).bind ?_ fun passed first middle passes regularMiddle formed => ?_
    · rintro passed view ⟨⟨tree, derived⟩, _⟩
      exact ⟨[close], view, passed, close, _, rfl, .last derived, rfl⟩
    obtain ⟨⟨tree, derived⟩, _⟩ := formed
    apply careful_current regularMiddle
    cases spelled : middle.current.token <;> simp only
    case comma =>
      refine (careful_advance regularMiddle).bind ?_ ?_
      · rintro _ view rfl
        have arguments := Arguments.more derived spelled (.last (expression_zero (Nat.zero_le 6)))
        exact ⟨[anyLexeme (.integer "0"), close], view, _, close, _, by simp, arguments, rfl⟩
      · rintro _ _ last further regularLast rfl
        have shorter := length_lt_of_argument regular passes derived spelled further
        refine (ih _ (by omega) regularLast rfl).andThen fun behind _ _ regular formed => ?_
        obtain ⟨lexemes, closing, trees, rfl, arguments, closes⟩ := formed
        apply careful_return regular
        exact ⟨_, closing, _, by simp, .more derived spelled arguments, closes⟩
    case closeBracket =>
      exact careful_single regularMiddle fun _ => ⟨passed, _, _, rfl, .last derived, spelled⟩
    all_goals
      refine careful_mismatch regularMiddle _ ?_
      exact ⟨[close], close, passed, close, _, rfl, .last derived, rfl⟩

theorem careful_call {name : String} (regular : cursor.feed.Regular)
    (spelled : cursor.current.token = .identifier name) (position : Position) :
    Careful ofPrimary (call inner name position) cursor := by
  refine careful_pass regular fun _ regular => ?_
  refine careful_token (careful_expect regular) fun opening _ middle opens regular => ?_
  apply careful_current regular
  by_cases closes : middle.current.token = .closeBracket
  · rw [if_pos closes]
    exact careful_single regular fun _ => ⟨_, .emptyCall spelled opens closes⟩
  · rw [if_neg closes, ← bind_assoc]
    refine (careful_arguments sound careful regular).andThen fun _ _ _ regular formed => ?_
    obtain ⟨lexemes, closing, trees, rfl, arguments, closes⟩ := formed
    apply careful_return regular
    rw [List.append_nil]
    exact ⟨_, .call spelled opens arguments closes⟩

theorem careful_primary (regular : cursor.feed.Regular) :
    Careful ofPrimary (primary inner) cursor := by
  apply careful_current regular
  cases spelled : cursor.current.token <;> simp only
  case string literal => exact careful_single regular fun _ => ⟨_, .string spelled⟩
  case integer text => exact careful_single regular fun _ => ⟨_, .integer spelled⟩
  case decimal text => exact careful_single regular fun _ => ⟨_, .decimal spelled⟩
  case boolean value => exact careful_single regular fun _ => ⟨_, .boolean spelled⟩
  case openBracket => exact careful_brackets careful regular spelled _
  case field => exact careful_field regular spelled _
  case lookup => exact careful_lookup regular spelled _
  case fieldById => exact careful_fieldById regular spelled _
  case identifier name => exact careful_call sound careful regular spelled _
  all_goals
    refine careful_mismatch regular _ ⟨[anyLexeme (.integer "0")], cursor.current, _, .integer rfl⟩

/-- Any operand can follow a sign, and so can a numeral, which the sign then belongs to. -/
theorem careful_signed (regular : cursor.feed.Regular)
    (carefulOperand : ∀ {cursor : Cursor}, cursor.feed.Regular → Careful ofOperand operand cursor) :
    Careful ofOperand (signed inner operand) cursor := by
  apply careful_current regular
  by_cases spelled : cursor.current.token = .operator .subtract
  · rw [if_pos spelled]
    refine careful_pass regular fun middle regular => ?_
    have negation : Careful (fun rest => ofOperand (cursor.current :: rest))
        (do let tree ← operand; return .negation tree cursor.current.position : Parse Tree)
        middle := by
      refine (carefulOperand regular).andThen fun passed _ _ regular formed => ?_
      obtain ⟨tree, derived⟩ := formed
      apply careful_return regular
      rw [List.append_nil]
      exact ⟨_, .minus spelled derived⟩
    apply careful_current regular
    cases numeral : middle.current.token <;> simp only
    case integer text =>
      exact careful_single regular fun _ => ⟨_, .minus spelled (.primary (.integer numeral))⟩
    case decimal text =>
      exact careful_single regular fun _ => ⟨_, .minus spelled (.primary (.decimal numeral))⟩
    all_goals exact negation
  · rw [if_neg spelled]
    refine (careful_primary sound careful regular).mono fun passed _ formed => ?_
    obtain ⟨tree, derived⟩ := formed
    exact ⟨tree, .primary derived⟩

end Nested

section Chain

variable {operand : Nat → Parse Tree} {lowest room level : Nat} {left : Tree} {front : List Lexeme}

/-- The left operand and what is passed behind it make up an expression. -/
def ofChain (lowest : Nat) (front passed : List Lexeme) (view : Lexeme) : Prop :=
  ofLevel lowest (front ++ passed) view

theorem careful_chain_of_stops (regular : cursor.feed.Regular)
    (derived : ∃ tree, Expression level front tree) (above : lowest ≤ level)
    (stops : cursor.Stops lowest) :
    Careful (ofChain lowest front) (chain operand lowest room left) cursor := by
  have formed : ofChain lowest front [] cursor.current := by
    obtain ⟨tree, derived⟩ := derived
    refine ⟨⟨tree, ?_⟩, stops⟩
    rw [List.append_nil]
    exact derived.loosen above
  have returned : Careful (ofChain lowest front) (pure left) cursor := careful_return regular formed
  refine returned.congr regular fun place _ same => ?_
  apply chain_stop
  intro op spelled
  exact stops op (same ▸ spelled)

/-- As the left operand leaves no tighter operator in view, any operator in view can join it to
another operand. -/
theorem careful_chain
    (careful : ∀ {lowest : Nat} {cursor : Cursor}, lowest ≤ 6 → cursor.feed.Regular →
      Careful (ofLevel lowest) (operand lowest) cursor)
    (regular : cursor.feed.Regular) (derived : ∃ tree, Expression level front tree)
    (above : lowest ≤ level) (stops : cursor.Stops (level + 1)) :
    Careful (ofChain lowest front) (chain operand lowest room left) cursor := by
  induction room generalizing cursor left front level with
  | zero =>
    obtain stopped | ⟨op, spelled, joins⟩ := stops_or_joins lowest cursor
    · exact careful_chain_of_stops regular derived above stopped
    · obtain ⟨tree, derived⟩ := derived
      have joined := (derived.loosen (Nat.le_of_lt_succ (stops op spelled))).join spelled
        (mem_operatorsAt_iff.2 rfl) (expression_zero (precedence_lt op))
      refine Careful.congr regular (?_ : Careful _ (do let _ ← advance; throw .tooLarge) _)
        fun place _ same => chain_zero (same ▸ spelled) joins
      refine careful_pass regular fun middle _ => .exceeded rfl ?_
      refine ⟨[anyLexeme (.integer "0")], anyLexeme .endOfInput, ⟨_, joined.loosen joins⟩, ?_⟩
      simp [anyLexeme]
  | succ room ih =>
    obtain stopped | ⟨op, spelled, joins⟩ := stops_or_joins lowest cursor
    · exact careful_chain_of_stops regular derived above stopped
    · obtain ⟨tree, derived⟩ := derived
      let next : Parse Tree := do
        let right ← operand (op.precedence + 1)
        chain operand lowest room (.binary op left right cursor.current.position)
      refine Careful.congr regular (?_ : Careful _ (do let _ ← advance; next) _) ?_
      · refine careful_pass regular fun _ regular => ?_
        refine (careful (precedence_lt op) regular).andThen fun passed _ last regular formed => ?_
        obtain ⟨⟨right, rightDerived⟩, rightStops⟩ := formed
        have joined := (derived.loosen (Nat.le_of_lt_succ (stops op spelled))).join spelled
          (mem_operatorsAt_iff.2 rfl) rightDerived
        refine (ih regular ⟨_, joined⟩ joins rightStops).mono fun rest view formed => ?_
        simpa only [ofChain, List.append_assoc, List.cons_append] using formed
      · intro place _ same
        rw [chain_succ (same ▸ spelled) joins, same]

end Chain

/-- The parsers of one budget rest on those of the next smaller one. -/
theorem careful_unary_level (budget : Nat) :
    (∀ {cursor : Cursor}, cursor.feed.Regular → Careful ofOperand (unary budget) cursor) ∧
    ∀ {lowest : Nat} {cursor : Cursor}, lowest ≤ 6 → cursor.feed.Regular →
      Careful (ofLevel lowest) (level budget lowest) cursor := by
  induction budget with
  | zero =>
    constructor
    · intro cursor _
      exact .exceeded rfl ⟨_, cursor.current, _, operand_zero⟩
    · intro lowest cursor bound _
      exact .exceeded rfl ⟨_, anyLexeme .endOfInput, ⟨_, expression_zero bound⟩, by simp [anyLexeme]⟩
  | succ budget ih =>
    obtain ⟨carefulUnary, carefulLevel⟩ := ih
    have sound : Sound (level budget 0) (Expression 0) := by
      intro cursor last tree parsed
      obtain ⟨lexemes, passes, derived, _⟩ := (unary_level_sound budget).2 (Nat.zero_le 6) parsed
      exact ⟨lexemes, passes, derived⟩
    have signed {cursor : Cursor} (regular : cursor.feed.Regular) :
        Careful ofOperand (signed (level budget 0) (unary budget)) cursor :=
      careful_signed sound (carefulLevel (Nat.zero_le 6)) regular carefulUnary
    refine ⟨signed, fun bound regular => ?_⟩
    refine Careful.andThen (signed regular) fun passed left middle regular formed => ?_
    obtain ⟨tree, derived⟩ := formed
    have stops : middle.Stops 7 := fun op _ => Nat.lt_succ_of_lt (precedence_lt op)
    exact careful_chain carefulLevel regular ⟨tree, .operand derived⟩ bound stops

def ofFormula (passed : List Lexeme) (_ : Lexeme) : Prop :=
  ∃ tree, Expression 0 passed tree

theorem careful_formula (limits : Limits) (regular : cursor.feed.Regular) :
    Careful ofFormula (formula limits) cursor := by
  have expression := (careful_unary_level (limits.maxDepth + 1)).2 (Nat.zero_le 6) regular
  refine Careful.andThen expression fun passed _ middle regular formed => ?_
  have whole : ofFormula (passed ++ []) middle.current := by
    rw [List.append_nil]
    exact formed.1
  apply careful_current regular
  split
  · exact careful_return regular whole
  · exact careful_mismatch regular _ ⟨[], middle.current, whole⟩

end Parse

end FieldFormula
