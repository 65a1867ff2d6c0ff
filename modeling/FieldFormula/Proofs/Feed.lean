import FieldFormula.Proofs.Parser.Cursor

/-! The shape of the answers that a source gives: lexemes up to the end of the input, or up to the
first fault. Every token but the last takes a character, so the answers are never cut short. -/

namespace FieldFormula

namespace Token

variable {text spelling rest : List Char} {token : Token}

theorem symbols_ne_nil : ∀ symbol ∈ symbols, symbol.1 ≠ [] := by
  decide

theorem readNumber_ne_nil {c : Char} (digit : c.isDigit = true)
    (read : readNumber (c :: text) = .read token spelling rest) : spelling ≠ [] := by
  simp only [readNumber, Reading.read.injEq, List.takeWhile_cons, digit, if_true] at read
  rw [← read.2.1]
  exact List.cons_ne_nil _ _

theorem continuesName_of_startsName {c : Char} (starts : startsName c = true) :
    continuesName c = true := by
  rcases Bool.or_eq_true_iff.1 starts with letter | underscore
  · exact Bool.or_eq_true_iff.2 (.inl (Text.isAlphanumeric_of_isAlphabetic letter))
  · exact Bool.or_eq_true_iff.2 (.inr underscore)

theorem readName_ne_nil {c : Char} (starts : startsName c = true)
    (read : readName (c :: text) = .read token spelling rest) : spelling ≠ [] := by
  simp only [readName, Reading.read.injEq, List.takeWhile_cons,
    continuesName_of_startsName starts, if_true] at read
  rw [← read.2.1]
  exact List.cons_ne_nil _ _

theorem readString_ne_nil {quote : QuoteStyle}
    (read : readString quote text = .read token spelling rest) : spelling ≠ [] := by
  unfold readString at read
  split at read
  · cases read
    exact List.cons_ne_nil _ _
  · cases read

/-- Wherever characters are left, a token takes some of them. -/
theorem readFront_cons_ne_nil {c : Char} {tail : List Char}
    (read : readFront (c :: tail) = .read token spelling rest) : spelling ≠ [] := by
  rw [readFront] at read
  split at read
  · next found =>
    cases read
    exact symbols_ne_nil _ (List.mem_of_find?_eq_some found)
  · split at read
    · exact readString_ne_nil read
    split at read
    · exact readString_ne_nil read
    split at read
    · next digit => exact readNumber_ne_nil digit read
    split at read
    · next starts => exact readName_ne_nil starts read
    · cases read

/-- Every token but the end of the input takes a character. -/
theorem readFront_ne_nil (read : readFront text = .read token spelling rest)
    (inside : token ≠ .endOfInput) : spelling ≠ [] := by
  cases text with
  | nil =>
    cases read
    exact absurd rfl inside
  | cons c tail => exact readFront_cons_ne_nil read

end Token

namespace Scanner

variable {scanner rest : Scanner} {lexeme : Lexeme}

/-- A lexeme is read from behind a gap, and the scanner goes on behind its spelling. -/
theorem next_eq_ok (answered : scanner.next = (.ok lexeme, rest)) :
    ∃ gap spelling, scanner.rest = gap ++ (spelling ++ rest.rest) ∧
      lexeme.spelling = String.ofList spelling ∧
      Token.readFront (spelling ++ rest.rest) = .read lexeme.token spelling rest.rest := by
  unfold next at answered
  split at answered
  · cases answered
  · next front skipped =>
    obtain ⟨gap, same, _⟩ := skipFrom_reached skipped
    split at answered
    · next token spelling after read =>
      cases answered
      rw [Token.readFront_eq read] at same read
      exact ⟨gap, spelling, same, rfl, read⟩
    · cases answered
    · cases answered

theorem length_lt_of_next (answered : scanner.next = (.ok lexeme, rest))
    (inside : lexeme.token ≠ .endOfInput) : rest.rest.length < scanner.rest.length := by
  obtain ⟨gap, spelling, same, _, read⟩ := next_eq_ok answered
  have taken := List.length_pos_iff.2 (Token.readFront_ne_nil read inside)
  simp only [same, List.length_append]
  omega

/-- Nothing but the end of the input is left of an empty text. -/
theorem next_of_rest_nil (empty : scanner.rest = []) :
    ∃ final, scanner.next.1 = .ok final ∧ final.token = .endOfInput := by
  refine ⟨⟨.endOfInput, String.ofList [], scanner.position⟩, ?_, rfl⟩
  simp only [next, empty, skipFrom, Token.readFront]

end Scanner

namespace Feed

open Cursor

/-- The feed of lexemes without faults, with `final` behind them for ever. -/
def ofLexemes (lexemes : List Lexeme) (final : Lexeme) : Feed :=
  ⟨lexemes.map .ok, .ok final⟩

/-- The end of the input stands at the end and nowhere else, unless a fault comes first. -/
inductive Regular : Feed → Prop
  | ended {final : Lexeme} (ended : final.token = .endOfInput) : Regular ⟨[], .ok final⟩
  | fault {error : SyntaxError} {steps : List (Except SyntaxError Lexeme)}
      {last : Except SyntaxError Lexeme} : Regular ⟨.error error :: steps, last⟩
  | lexeme {lexeme : Lexeme} {steps : List (Except SyntaxError Lexeme)}
      {last : Except SyntaxError Lexeme} (inside : lexeme.token ≠ .endOfInput)
      (others : Regular ⟨steps, last⟩) : Regular ⟨.ok lexeme :: steps, last⟩

theorem collect_regular {room : Nat} {scanner : Scanner} (enough : scanner.rest.length ≤ room) :
    (collect room scanner).Regular := by
  induction room generalizing scanner with
  | zero =>
    obtain ⟨final, answered, ended⟩ :=
      scanner.next_of_rest_nil (List.length_eq_zero_iff.1 (Nat.le_zero.1 enough))
    rw [collect, answered]
    exact .ended ended
  | succ room ih =>
    rw [collect]
    split
    · exact .fault
    · next lexeme rest answered =>
      split
      · next ended => exact .ended ended
      · next inside =>
        have shorter := Scanner.length_lt_of_next answered inside
        exact .lexeme inside (ih (by omega))

theorem collect_length_le (room : Nat) (scanner : Scanner) :
    (collect room scanner).steps.length ≤ room := by
  induction room generalizing scanner with
  | zero => exact Nat.le_refl 0
  | succ room ih =>
    rw [collect]
    split
    · simp
    · split
      · exact Nat.zero_le _
      · exact Nat.succ_le_succ (ih _)

theorem ofSource_regular (source : String) : (ofSource source).Regular :=
  collect_regular (Nat.le_refl _)

theorem ofSource_length_le (source : String) : (ofSource source).steps.length ≤ source.length := by
  have bound := collect_length_le source.toList.length (Scanner.ofSource source)
  rwa [String.length_toList] at bound

/-- Lexemes that can be passed up to the end of the input are all that a regular feed gives. -/
theorem Regular.eq_ofLexemes {feed rest : Feed} {current : Lexeme} {lexemes : List Lexeme}
    {last : Cursor} (regular : feed.Regular) (moved : feed.next = (.ok current, rest))
    (passes : Passes ⟨current, rest⟩ lexemes last)
    (inside : ∀ lexeme ∈ lexemes, lexeme.token ≠ .endOfInput)
    (ended : last.current.token = .endOfInput) : feed = ofLexemes lexemes last.current := by
  induction regular generalizing current rest lexemes with
  | ended finished =>
    cases moved
    cases passes with
    | none => rfl
    | next => exact absurd finished (inside _ List.mem_cons_self)
  | fault => cases moved
  | lexeme different others ih =>
    cases moved
    cases passes with
    | none => exact absurd ended different
    | next following passes =>
      have same := ih following passes fun lexeme member => inside _ (List.mem_cons_of_mem _ member)
      simp only [ofLexemes, Feed.mk.injEq] at same ⊢
      simp [same]

theorem regular_ofLexemes {lexemes : List Lexeme} {final : Lexeme}
    (inside : ∀ lexeme ∈ lexemes, lexeme.token ≠ .endOfInput) (ended : final.token = .endOfInput) :
    (ofLexemes lexemes final).Regular := by
  induction lexemes with
  | nil => exact .ended ended
  | cons lexeme lexemes ih =>
    rw [List.forall_mem_cons] at inside
    exact .lexeme inside.1 (ih inside.2)

theorem ofLexemes_inj {lexemes others : List Lexeme} {final other : Lexeme}
    (same : ofLexemes lexemes final = ofLexemes others other) :
    lexemes = others ∧ final = other := by
  simp only [ofLexemes, Feed.mk.injEq, Except.ok.injEq] at same
  exact ⟨(List.map_inj_right fun _ _ => Except.ok.inj).1 same.1, same.2⟩

/-- Before the end of a regular feed without faults there is no other end. -/
theorem Regular.ne_end {lexemes : List Lexeme} {final : Lexeme}
    (regular : (ofLexemes lexemes final).Regular) :
    ∀ lexeme ∈ lexemes, lexeme.token ≠ .endOfInput := by
  induction lexemes with
  | nil => simp
  | cons lexeme lexemes ih =>
    cases regular with
    | lexeme inside others => exact List.forall_mem_cons.2 ⟨inside, ih others⟩

theorem lexemes_cons (lexeme : Lexeme) (steps : List (Except SyntaxError Lexeme))
    (last : Except SyntaxError Lexeme) :
    lexemes ⟨.ok lexeme :: steps, last⟩ = (lexemes ⟨steps, last⟩).map (lexeme :: ·) := by
  simp only [lexemes, List.mapM_cons]
  cases steps.mapM id <;> cases last <;> rfl

theorem lexemes_ofLexemes (lexemes : List Lexeme) (final : Lexeme) :
    (ofLexemes lexemes final).lexemes = .ok (lexemes ++ [final]) := by
  induction lexemes with
  | nil => rfl
  | cons lexeme lexemes ih =>
    simp only [ofLexemes, List.map_cons, lexemes_cons] at ih ⊢
    rw [ih]
    rfl

/-- Only a feed without faults is read to its end. -/
theorem Regular.of_lexemes {feed : Feed} {all : List Lexeme} (regular : feed.Regular)
    (read : feed.lexemes = .ok all) :
    ∃ lexemes final, feed = ofLexemes lexemes final ∧ all = lexemes ++ [final] ∧
      final.token = .endOfInput := by
  induction regular generalizing all with
  | @ended final ended =>
    cases read
    exact ⟨[], final, rfl, rfl, ended⟩
  | fault => cases read
  | @lexeme lexeme steps last inside others ih =>
    rw [lexemes_cons] at read
    cases rest : Feed.lexemes ⟨steps, last⟩ with
    | error error =>
      rw [rest] at read
      cases read
    | ok found =>
      rw [rest] at read
      cases read
      obtain ⟨lexemes, final, same, split, ended⟩ := ih rest
      simp only [ofLexemes, Feed.mk.injEq] at same
      refine ⟨lexeme :: lexemes, final, ?_, ?_, ended⟩
      · simp [ofLexemes, same]
      · simp [split]

end Feed

end FieldFormula
