import FieldFormula.Proofs.Parser.Exactness

/-! The parser looks at tokens and at nothing else. If the places of lexemes are forgotten and their
names and spellings are rewritten, it goes through the same steps, and its tree or error changes in
the same way. So whether lexemes are a formula depends on their tokens alone. -/

namespace FieldFormula

/-- What is left of a lexeme: a form of its name and of its spelling, and no place. -/
structure Aspect where
  name : String → String
  spelling : String → String
  /-- The end of the input is described without a spelling. -/
  described : spelling "the end of the formula" = "the end of the formula"

namespace Aspect

variable (aspect : Aspect)

def token : Token → Token
  | .identifier name => .identifier (aspect.name name)
  | token => token

def lexeme (lexeme : Lexeme) : Lexeme :=
  ⟨aspect.token lexeme.token, aspect.spelling lexeme.spelling, .start⟩

mutual

def tree : Tree → Tree
  | .string literal _ => .string literal .start
  | .integer text _ => .integer text .start
  | .decimal text _ => .decimal text .start
  | .boolean value _ => .boolean value .start
  | .brackets inner _ => .brackets (tree inner) .start
  | .negation operand _ => .negation (tree operand) .start
  | .binary op left right _ => .binary op (tree left) (tree right) .start
  | .call name args _ => .call (aspect.name name) (trees args) .start
  | .field name _ => .field name .start
  | .lookup via target _ => .lookup via target .start
  | .fieldById id _ => .fieldById id .start

def trees : List Tree → List Tree
  | [] => []
  | first :: others => tree first :: trees others

end

def fault : Fault → Fault
  | .mismatched found expecting => .mismatched (aspect.spelling found) expecting
  | fault => fault

def syntaxError (error : SyntaxError) : SyntaxError :=
  ⟨aspect.fault error.fault, .start⟩

def error : Error → Error
  | .malformed error => .malformed (aspect.syntaxError error)
  | error => error

def answer : Except SyntaxError Lexeme → Except SyntaxError Lexeme
  | .ok lexeme => .ok (aspect.lexeme lexeme)
  | .error error => .error (aspect.syntaxError error)

def feed (feed : Feed) : Feed :=
  ⟨feed.steps.map aspect.answer, aspect.answer feed.last⟩

def cursor (cursor : Cursor) : Cursor :=
  ⟨aspect.lexeme cursor.current, aspect.feed cursor.feed⟩

def result {α : Type} (value : α → α) : EStateM.Result Error Cursor α → EStateM.Result Error Cursor α
  | .ok found last => .ok (value found) (aspect.cursor last)
  | .error error last => .error (aspect.error error) (aspect.cursor last)

theorem describe_lexeme (lexeme : Lexeme) :
    (aspect.lexeme lexeme).describe = aspect.spelling lexeme.describe := by
  obtain ⟨token, spelling, position⟩ := lexeme
  cases token with
  | endOfInput => exact aspect.described.symm
  | _ => rfl

/-- A token that is no name is recognised by what is left of it. -/
theorem token_eq_iff {token other : Token} (unnamed : ∀ name, other ≠ .identifier name) :
    aspect.token token = other ↔ token = other := by
  cases token with
  | identifier name =>
    constructor
    · intro same
      exact absurd same.symm (unnamed _)
    · intro same
      exact absurd same.symm (unnamed _)
  | _ => exact Iff.rfl

theorem next_feed (feed : Feed) :
    (aspect.feed feed).next = (aspect.answer feed.next.1, aspect.feed feed.next.2) := by
  obtain ⟨steps, last⟩ := feed
  cases steps <;> rfl

theorem cursor_before (final : Lexeme) (lexemes : List Lexeme) :
    aspect.cursor (.before final lexemes) =
      .before (aspect.lexeme final) (lexemes.map aspect.lexeme) := by
  cases lexemes with
  | nil => rfl
  | cons lexeme lexemes =>
    simp only [cursor, feed, Cursor.before, List.map_cons, List.map_map]
    rfl

/-- From what is left of its input a parser makes what is left of its result. -/
def Carries {α : Type} (value : α → α) (parser changed : Parse α) : Prop :=
  ∀ cursor, changed (aspect.cursor cursor) = aspect.result value (parser cursor)

end Aspect

namespace Parse

open Aspect

variable {aspect : Aspect} {α β : Type}

theorem carries_return {value : α → α} {found left : α} (same : value found = left) :
    aspect.Carries value (pure found) (pure left) :=
  fun _ => same ▸ rfl

theorem carries_throw {value : α → α} (error : Error) :
    aspect.Carries value (throw error) (throw (aspect.error error)) :=
  fun _ => rfl

theorem carries_bind {value : α → α} {next : β → β} {first changed : Parse α}
    {second rest : α → Parse β} (front : aspect.Carries value first changed)
    (back : ∀ found, aspect.Carries next (second found) (rest (value found))) :
    aspect.Carries next (first >>= second) (changed >>= rest) := by
  intro cursor
  have step := front cursor
  cases reached : first cursor with
  | ok found middle =>
    rw [reached] at step
    rw [bind_of_ok reached, bind_of_ok step]
    exact back found middle
  | error error last =>
    rw [reached] at step
    rw [bind_of_error reached, bind_of_error step]
    rfl

theorem carries_current : aspect.Carries aspect.lexeme current current :=
  fun _ => rfl

theorem carries_room : aspect.Carries id room room := by
  intro cursor
  simp only [room, Aspect.cursor, Aspect.feed, List.length_map]
  rfl

theorem carries_advance : aspect.Carries aspect.lexeme advance advance := by
  intro cursor
  simp only [advance, Aspect.cursor, next_feed]
  obtain ⟨answer, feed⟩ := cursor.feed.next
  cases answer <;> rfl

theorem carries_mismatch {value : α → α} (expecting : Expectation) :
    aspect.Carries value (mismatch expecting) (mismatch expecting) := by
  refine carries_bind carries_current fun found => ?_
  rw [describe_lexeme]
  exact carries_throw _

/-- A token that is passed leads to what follows it. -/
theorem carries_advance_bind {value : α → α} {parser changed : Parse α}
    (following : aspect.Carries value parser changed) :
    aspect.Carries value (do let _ ← advance; parser) (do let _ ← advance; changed) :=
  carries_bind carries_advance fun _ => following

/-- A parser that asks for a token, but for no name, gets the same answer. -/
theorem carries_if {token : Token} (unnamed : ∀ name, token ≠ .identifier name) {found : Lexeme}
    {value : α → α} {parser changed other otherChanged : Parse α}
    (yes : aspect.Carries value parser changed) (no : aspect.Carries value other otherChanged) :
    aspect.Carries value (if found.token = token then parser else other)
      (if (aspect.lexeme found).token = token then changed else otherChanged) := by
  have same : (aspect.lexeme found).token = token ↔ found.token = token :=
    aspect.token_eq_iff unnamed
  by_cases spelled : found.token = token
  · rw [if_pos spelled, if_pos (same.2 spelled)]
    exact yes
  · rw [if_neg spelled, if_neg (mt same.1 spelled)]
    exact no

theorem carries_expect {token : Token} (unnamed : ∀ name, token ≠ .identifier name)
    (expecting : Expectation) :
    aspect.Carries id (expect token expecting) (expect token expecting) := by
  refine carries_bind carries_current fun found => carries_if unnamed ?_ ?_
  · exact carries_advance_bind (carries_return rfl)
  · exact carries_mismatch expecting

theorem carries_quoted : aspect.Carries id quoted quoted := by
  refine carries_bind carries_current fun found => ?_
  obtain ⟨token, spelling, position⟩ := found
  cases token with
  | string literal => exact carries_advance_bind (carries_return rfl)
  | _ => exact carries_mismatch _

theorem carries_integer : aspect.Carries id integer integer := by
  refine carries_bind carries_current fun found => ?_
  obtain ⟨token, spelling, position⟩ := found
  cases token with
  | integer text => exact carries_advance_bind (carries_return rfl)
  | _ => exact carries_mismatch _

theorem carries_field (position : Position) :
    aspect.Carries aspect.tree (field position) (field .start) := by
  apply carries_advance_bind
  refine carries_bind (carries_expect (by nofun) _) fun _ => ?_
  refine carries_bind carries_quoted fun name => ?_
  exact carries_bind (carries_expect (by nofun) _) fun _ => carries_return rfl

theorem carries_lookup (position : Position) :
    aspect.Carries aspect.tree (lookup position) (lookup .start) := by
  apply carries_advance_bind
  refine carries_bind (carries_expect (by nofun) _) fun _ => ?_
  refine carries_bind carries_quoted fun via => ?_
  refine carries_bind (carries_expect (by nofun) _) fun _ => ?_
  refine carries_bind carries_quoted fun target => ?_
  exact carries_bind (carries_expect (by nofun) _) fun _ => carries_return rfl

theorem carries_fieldById (position : Position) :
    aspect.Carries aspect.tree (fieldById position) (fieldById .start) := by
  apply carries_advance_bind
  refine carries_bind (carries_expect (by nofun) _) fun _ => ?_
  refine carries_bind carries_integer fun id => ?_
  exact carries_bind (carries_expect (by nofun) _) fun _ => carries_return rfl

section Nested

variable {inner innerChanged operand operandChanged : Parse Tree}
  (carriesInner : aspect.Carries aspect.tree inner innerChanged)

include carriesInner

theorem carries_brackets (position : Position) :
    aspect.Carries aspect.tree (brackets inner position) (brackets innerChanged .start) := by
  apply carries_advance_bind
  refine carries_bind carriesInner fun tree => ?_
  exact carries_bind (carries_expect (by nofun) _) fun _ => carries_return rfl

theorem carries_arguments (room : Nat) :
    aspect.Carries aspect.trees (arguments inner room) (arguments innerChanged room) := by
  induction room with
  | zero => exact carries_mismatch _
  | succ room ih =>
    refine carries_bind carriesInner fun first => carries_bind carries_current fun found => ?_
    obtain ⟨token, spelling, position⟩ := found
    cases token with
    | comma =>
      apply carries_advance_bind
      exact carries_bind ih fun others => carries_return rfl
    | closeBracket => exact carries_advance_bind (carries_return rfl)
    | _ => exact carries_mismatch _

theorem carries_call (name : String) (position : Position) :
    aspect.Carries aspect.tree (call inner name position)
      (call innerChanged (aspect.name name) .start) := by
  apply carries_advance_bind
  refine carries_bind (carries_expect (by nofun) _) fun _ => ?_
  refine carries_bind carries_current fun found => carries_if (by nofun) ?_ ?_
  · exact carries_advance_bind (carries_return rfl)
  · refine carries_bind carries_room fun room => ?_
    exact carries_bind (carries_arguments carriesInner room) fun args => carries_return rfl

theorem carries_primary :
    aspect.Carries aspect.tree (primary inner) (primary innerChanged) := by
  refine carries_bind carries_current fun first => ?_
  obtain ⟨token, spelling, position⟩ := first
  cases token with
  | string literal => exact carries_advance_bind (carries_return rfl)
  | integer text => exact carries_advance_bind (carries_return rfl)
  | decimal text => exact carries_advance_bind (carries_return rfl)
  | boolean value => exact carries_advance_bind (carries_return rfl)
  | openBracket => exact carries_brackets carriesInner position
  | field => exact carries_field position
  | lookup => exact carries_lookup position
  | fieldById => exact carries_fieldById position
  | identifier name => exact carries_call carriesInner name position
  | _ => exact carries_mismatch _

theorem carries_signed (carriesOperand : aspect.Carries aspect.tree operand operandChanged) :
    aspect.Carries aspect.tree (signed inner operand) (signed innerChanged operandChanged) := by
  refine carries_bind carries_current fun first => carries_if (by nofun) ?_ ?_
  · refine carries_advance_bind (carries_bind carries_current fun second => ?_)
    have negated : aspect.Carries aspect.tree
        (do let tree ← operand; return .negation tree first.position)
        (do let tree ← operandChanged; return .negation tree .start) :=
      carries_bind carriesOperand fun tree => carries_return rfl
    obtain ⟨token, spelling, position⟩ := second
    cases token with
    | integer text => exact carries_advance_bind (carries_return rfl)
    | decimal text => exact carries_advance_bind (carries_return rfl)
    | _ => exact negated
  · exact carries_primary carriesInner

end Nested

theorem carries_join {next nextChanged : Operator → Position → Parse Tree}
    (carriesNext : ∀ op position,
      aspect.Carries aspect.tree (next op position) (nextChanged op .start))
    (lowest : Nat) (left : Tree) :
    aspect.Carries aspect.tree (join lowest left next)
      (join lowest (aspect.tree left) nextChanged) := by
  unfold join
  refine carries_bind carries_current fun found => ?_
  obtain ⟨token, spelling, position⟩ := found
  cases token with
  | operator op =>
    simp only [Aspect.lexeme, Aspect.token, Token.operator?]
    split
    · exact carries_return rfl
    · exact carries_advance_bind (carriesNext op position)
  | _ => exact carries_return rfl

theorem carries_chain {operand operandChanged : Nat → Parse Tree}
    (carriesOperand : ∀ lowest,
      aspect.Carries aspect.tree (operand lowest) (operandChanged lowest))
    (lowest room : Nat) (left : Tree) :
    aspect.Carries aspect.tree (chain operand lowest room left)
      (chain operandChanged lowest room (aspect.tree left)) := by
  induction room generalizing left with
  | zero => exact carries_join (fun _ _ => carries_throw _) lowest left
  | succ room ih =>
    refine carries_join (fun op position => ?_) lowest left
    exact carries_bind (carriesOperand _) fun right => ih (.binary op left right position)

/-- The parsers of one budget rest on those of the next smaller one. -/
theorem carries_unary_level (budget : Nat) :
    aspect.Carries aspect.tree (unary budget) (unary budget) ∧
      ∀ lowest, aspect.Carries aspect.tree (level budget lowest) (level budget lowest) := by
  induction budget with
  | zero => exact ⟨fun _ => rfl, fun _ _ => rfl⟩
  | succ budget ih =>
    obtain ⟨unary, level⟩ := ih
    have operand := carries_signed (level 0) unary
    refine ⟨operand, fun lowest => ?_⟩
    exact carries_bind operand fun left => carries_chain level lowest budget left

theorem carries_formula (aspect : Aspect) (limits : Limits) :
    aspect.Carries aspect.tree (formula limits) (formula limits) := by
  refine carries_bind ((carries_unary_level _).2 0) fun tree => ?_
  refine carries_bind carries_current fun found => carries_if (by nofun) ?_ ?_
  · exact carries_return rfl
  · exact carries_mismatch _

end Parse

def Aspect.tokens : Aspect := ⟨id, fun _ => "the end of the formula", rfl⟩

theorem Aspect.lexeme_tokens (lexeme : Lexeme) :
    tokens.lexeme lexeme = ⟨lexeme.token, "the end of the formula", .start⟩ := by
  obtain ⟨token, spelling, position⟩ := lexeme
  cases token <;> rfl

theorem Aspect.map_lexeme_tokens {lexemes others : List Lexeme}
    (same : lexemes.map Lexeme.token = others.map Lexeme.token) :
    lexemes.map tokens.lexeme = others.map tokens.lexeme := by
  have composed : tokens.lexeme =
      (fun token => ⟨token, "the end of the formula", .start⟩) ∘ Lexeme.token :=
    funext lexeme_tokens
  rw [composed, ← List.map_map, same, List.map_map]

namespace Grammar

open Parse Cursor

variable {lexemes others : List Lexeme} {tree : Tree}

/-- Lexemes without an end that are passed up to the end are all there are. -/
theorem eq_of_passes_before {final : Lexeme} {last : Cursor}
    (passes : Passes (before final lexemes) others last) (ended : final.token = .endOfInput)
    (inside : ∀ lexeme ∈ lexemes, lexeme.token ≠ .endOfInput)
    (insideOthers : ∀ lexeme ∈ others, lexeme.token ≠ .endOfInput)
    (finished : last.current.token = .endOfInput) : lexemes = others := by
  have moved : (Feed.ofLexemes lexemes final).next =
      (.ok (before final lexemes).current, (before final lexemes).feed) := by
    cases lexemes <;> rfl
  have same := (Feed.regular_ofLexemes inside ended).eq_ofLexemes moved passes insideOthers finished
  exact (Feed.ofLexemes_inj same).1

/-- Whether lexemes are an expression depends on their tokens alone, and so does their tree but for
its places: the parser cannot tell them apart. -/
theorem Expression.of_tokens (derived : Expression 0 lexemes tree)
    (same : others.map Lexeme.token = lexemes.map Lexeme.token) :
    ∃ other, Expression 0 others other ∧ Aspect.tokens.tree other = Aspect.tokens.tree tree := by
  let limits : Limits := ⟨tree.demand, 0⟩
  let final : Lexeme := ⟨.endOfInput, "", .start⟩
  have ended : final.token = .endOfInput := rfl
  have parsed := (formula_complete limits derived ended).ok (Nat.le_succ _)
  have carried := carries_formula .tokens limits (before final lexemes)
  have carriedOthers := carries_formula .tokens limits (before final others)
  rw [Aspect.cursor_before] at carried carriedOthers
  rw [Aspect.map_lexeme_tokens same, carried, parsed] at carriedOthers
  cases found : formula limits (before final others) with
  | error error last =>
    rw [found] at carriedOthers
    cases carriedOthers
  | ok other last =>
    obtain ⟨passed, passes, derivedOther, finished⟩ := formula_sound found
    have inside : ∀ lexeme ∈ others, lexeme.token ≠ .endOfInput := by
      intro lexeme member
      have listed : lexeme.token ∈ others.map Lexeme.token := List.mem_map_of_mem member
      rw [same] at listed
      obtain ⟨origin, among, spelled⟩ := List.mem_map.1 listed
      rw [← spelled]
      exact derived.ne_end origin among
    rw [found] at carriedOthers
    simp only [Aspect.result, EStateM.Result.ok.injEq] at carriedOthers
    rw [eq_of_passes_before passes ended inside derivedOther.ne_end finished]
    exact ⟨other, derivedOther, carriedOthers.1.symm⟩

/-- Whether lexemes are a formula depends on their tokens alone. -/
theorem Root.of_tokens (root : Root lexemes tree)
    (same : others.map Lexeme.token = lexemes.map Lexeme.token) : ∃ tree, Root others tree := by
  obtain ⟨derived, ended⟩ := root
  rw [List.map_append] at same
  obtain ⟨inner, last, rfl, sameInner, sameLast⟩ := List.map_eq_append_iff.1 same
  obtain ⟨final, rfl, spelled⟩ := List.map_eq_singleton_iff.1 sameLast
  obtain ⟨tree, derivedInner, _⟩ := derived.of_tokens sameInner
  exact ⟨tree, .intro derivedInner (spelled.trans ended)⟩

end Grammar

end FieldFormula
