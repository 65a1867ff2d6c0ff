import FieldFormula.Proofs.Limits
import FieldFormula.Proofs.Parser.Aspect
import FieldFormula.Proofs.Parser.Careful
import FieldFormula.Proofs.Partition

/-! A formula is rejected at the first token that makes it impossible. The lexemes before the reported
one are those of some formula's beginning, together with the reported one they are not, and a text
that is no token at all is reported where it starts. -/

namespace FieldFormula

open Cursor Grammar

/-- Tokens that some formula begins with; the end of the input is the last token of a formula. -/
def Viable (tokens : List Token) : Prop :=
  ∃ lexemes tree, Root lexemes tree ∧ tokens <+: lexemes.map Lexeme.token

variable {passed rest : List Lexeme} {view : Lexeme} {limits : Limits} {source : String}

theorem viable_of_continued (continued : ∃ tree, Expression 0 (passed ++ rest) tree) :
    Viable (passed.map Lexeme.token) := by
  obtain ⟨tree, derived⟩ := continued
  let final : Lexeme := ⟨.endOfInput, "", .start⟩
  refine ⟨passed ++ rest ++ [final], tree, .intro derived rfl, ?_⟩
  simp only [List.map_append, List.append_assoc]
  exact List.prefix_append _ _

theorem viable_nil : Viable [] := by
  have continued : ∃ tree, Expression 0 ([] ++ [Parse.anyLexeme (.integer "0")]) tree :=
    ⟨_, Parse.expression_zero (Nat.zero_le 6)⟩
  exact viable_of_continued continued

theorem regular_before {final : Lexeme} {lexemes : List Lexeme}
    (inside : ∀ lexeme ∈ lexemes, lexeme.token ≠ .endOfInput) (ended : final.token = .endOfInput) :
    (before final lexemes).feed.Regular := by
  cases lexemes with
  | nil => exact .ended ended
  | cons lexeme lexemes => exact Feed.regular_ofLexemes (List.forall_mem_cons.1 inside).2 ended

/-- Every lexeme of a list comes into view once those before it are passed. -/
theorem exists_passes_before {final : Lexeme} {lexemes : List Lexeme}
    (split : lexemes ++ [final] = passed ++ view :: rest) :
    ∃ last, Passes (before final lexemes) passed last ∧ last.current = view := by
  induction passed generalizing lexemes with
  | nil =>
    refine ⟨before final lexemes, .none, ?_⟩
    cases lexemes <;> cases split <;> rfl
  | cons lexeme passed ih =>
    cases lexemes with
    | nil => simp at split
    | cons first lexemes =>
      rw [List.cons_append, List.cons_append] at split
      obtain ⟨rfl, others⟩ := List.cons.inj split
      obtain ⟨last, passes, inView⟩ := ih others
      have moved : (before final (first :: lexemes)).feed.next =
          (.ok (before final lexemes).current, (before final lexemes).feed) := by
        cases lexemes <;> rfl
      exact ⟨last, .next moved passes, inView⟩

/-- If these lexemes are rejected wherever they are seen, no formula begins with them: the parser
would accept it, with limits that are wide enough. -/
theorem not_viable_of_rejected {expecting : Expectation}
    (always : ∀ place final, Sees passed view place final →
      Parse.formula limits place = .error (Parse.rejection view expecting) final) :
    ¬ Viable ((passed ++ [view]).map Lexeme.token) := by
  rintro ⟨lexemes, tree, root, tokens, same⟩
  have replaced : (passed ++ [view] ++ lexemes.drop (passed.length + 1)).map Lexeme.token =
      lexemes.map Lexeme.token := by
    rw [List.map_append, List.map_drop, ← same, List.drop_left' (by simp)]
  obtain ⟨other, root⟩ := root.of_tokens replaced
  rw [List.append_assoc, List.singleton_append] at root
  generalize split : passed ++ view :: _ = all at root
  obtain @⟨inner, final, _, derived, ended⟩ := root
  obtain ⟨last, passes, inView⟩ := exists_passes_before split.symm
  have rejected := always _ last ⟨regular_before derived.ne_end ended, passes, inView⟩
  let wide : Limits := ⟨limits.maxDepth + other.demand, 0⟩
  have accepted := (Parse.formula_complete wide derived ended).ok (by simp only [wide]; omega)
  have deeper : limits.maxDepth ≤ wide.maxDepth := Nat.le_add_right _ _
  rcases Parse.formula_stopsShort deeper (before final inner) with agree | ⟨_, cut⟩
  · rw [agree, accepted] at rejected
    cases rejected
  · rw [cut] at rejected
    cases rejected

namespace Scanner

variable {scanner : Scanner} {cursor last : Cursor} {feed : Feed}

/-- What a cursor passes before the end is what the scanner behind its feed gives. -/
theorem Feeds.gives_of_passes (feeds : Feeds scanner feed)
    (moved : feed.next = (.ok cursor.current, cursor.feed)) (passes : Passes cursor passed last)
    (inside : ∀ lexeme ∈ passed, lexeme.token ≠ .endOfInput) :
    ∃ following behind, Gives scanner passed following ∧ Feeds following behind ∧
      behind.next = (.ok last.current, last.feed) := by
  induction passes generalizing scanner feed with
  | none => exact ⟨scanner, feed, .none, feeds, moved⟩
  | @next cursor last lexeme rest lexemes further _ ih =>
    rw [List.forall_mem_cons] at inside
    obtain ⟨following, answered, others⟩ := feeds.step moved inside.1
    obtain ⟨final, behind, given, feedsBehind, movedBehind⟩ := ih others further inside.2
    exact ⟨final, behind, .next answered inside.1 given, feedsBehind, movedBehind⟩

theorem Gives.run_eq {lexemes : List Lexeme} {final : Scanner}
    (given : Gives scanner lexemes final) :
    run (lexemes.length + 1) scanner = lexemes.map .ok ++ [final.next.1] := by
  induction given with
  | none => rfl
  | next answered _ _ ih =>
    rw [List.length_cons, run, answered, ih]
    rfl

end Scanner

/-- A fault is reported where the text that cannot be read starts. -/
theorem Laid.faulted {text : List Char} {pieces : List Piece} {scanner : Scanner}
    {error : SyntaxError} (laid : Laid text pieces scanner)
    (answered : scanner.next.1 = .error error) :
    ∃ gap rest, text = written pieces ++ gap ++ rest ∧ Gap gap ∧ Unreadable error.fault rest ∧
      error.position = .behind (written pieces ++ gap) := by
  have answers := scanner.answers_next
  generalize scanner.next.2 = following at answers
  rw [answered] at answers
  cases answers with
  | @fault gap rest fault next split front unreadable =>
    refine ⟨gap, rest, ?_, front, unreadable, laid.after_eq gap⟩
    rw [laid.whole, split, List.append_assoc]

/-- The error is about the lexeme behind `before`, which no formula has behind these tokens. -/
def ReportsImpossible (source : String) (before : List Lexeme) (error : SyntaxError) : Prop :=
  ∃ reported expecting,
    Scanner.run (before.length + 1) (.ofSource source) = (before ++ [reported]).map .ok ∧
    error = ⟨.mismatched reported.describe expecting, reported.position⟩ ∧
    ¬ Viable ((before ++ [reported]).map Lexeme.token)

/-- The error is about the text behind `before`, which is no token, and its place is where that text
starts in the source. -/
def ReportsUnreadable (source : String) (before : List Lexeme) (error : SyntaxError) : Prop :=
  Scanner.run (before.length + 1) (.ofSource source) = before.map .ok ++ [.error error] ∧
  ∃ pieces gap rest, pieces.map Prod.snd = before ∧ InPlace pieces ∧ Gap gap ∧
    source.toList = written pieces ++ gap ++ rest ∧ Unreadable error.fault rest ∧
    error.position = .behind (written pieces ++ gap)

theorem reportsUnreadable_of_gives {before : List Lexeme} {error : SyntaxError} {scanner : Scanner}
    (given : Scanner.Gives (.ofSource source) before scanner)
    (answered : scanner.next.1 = .error error) : ReportsUnreadable source before error := by
  obtain ⟨pieces, same, laid⟩ := (Laid.start source).run given
  rw [List.nil_append] at laid
  obtain ⟨gap, rest, split, front, unreadable, place⟩ := laid.faulted answered
  refine ⟨?_, pieces, gap, rest, same, laid.inPlace, front, split, unreadable, place⟩
  rw [given.run_eq, answered]

section Reports

variable {cursor last middle : Cursor} {error : SyntaxError} {feed : Feed}
  (moved : (Feed.ofSource source).next = (.ok cursor.current, cursor.feed))

include moved

theorem reportsImpossible_of_rejected {expecting : Expectation} (passes : Passes cursor passed last)
    (inside : ∀ lexeme ∈ passed, lexeme.token ≠ .endOfInput)
    (always : ∀ place final, Sees passed last.current place final →
      Parse.formula limits place = .error (Parse.rejection last.current expecting) final) :
    ReportsImpossible source passed
      ⟨.mismatched last.current.describe expecting, last.current.position⟩ := by
  obtain ⟨following, behind, given, feedsBehind, movedBehind⟩ :=
    (Scanner.feeds_ofSource source).gives_of_passes moved passes inside
  refine ⟨last.current, expecting, ?_, rfl, not_viable_of_rejected always⟩
  rw [given.run_eq, ← feedsBehind.next_eq, movedBehind, List.map_append]
  rfl

/-- The lexeme in view is scanned before the fault behind it is met. -/
theorem reportsUnreadable_of_faulted (passes : Passes cursor passed middle)
    (inside : ∀ lexeme ∈ passed ++ [middle.current], lexeme.token ≠ .endOfInput)
    (fault : middle.feed.next = (.error error, feed)) :
    ReportsUnreadable source (passed ++ [middle.current]) error := by
  obtain ⟨insidePassed, insideView⟩ := List.forall_mem_append.1 inside
  have insideView := insideView _ List.mem_cons_self
  obtain ⟨following, behind, given, feedsBehind, movedBehind⟩ :=
    (Scanner.feeds_ofSource source).gives_of_passes moved passes insidePassed
  obtain ⟨final, answered, feedsFinal⟩ := feedsBehind.step movedBehind insideView
  apply reportsUnreadable_of_gives (given.append (.next answered insideView .none))
  rw [← feedsFinal.next_eq, fault]

end Reports

/-- A source that cannot be parsed is rejected at the first impossible token: the tokens before it
begin some formula, and either no formula goes on with it, or it is no token. -/
theorem Tree.parse_rejects_first_impossible (limits : Limits) (source : String)
    (error : SyntaxError) (failed : Tree.parse limits source = .error (.malformed error)) :
    ∃ before : List Lexeme, Viable (before.map Lexeme.token) ∧
      (ReportsImpossible source before error ∨ ReportsUnreadable source before error) := by
  unfold Tree.parse Parse.start at failed
  split at failed
  · next current feed moved =>
    have regular := regular_of_next (Feed.ofSource_regular source) moved
    have careful : Parse.Careful Parse.ofFormula (Parse.formula limits) ⟨current, feed⟩ :=
      Parse.careful_formula limits regular
    simp only [bind, Except.bind] at failed
    cases careful with
    | returned here _ always =>
      rw [always _ _ here] at failed
      cases failed
    | rejected here continued always =>
      rw [always _ _ here] at failed
      cases failed
      obtain ⟨rest, _, tree, derived⟩ := continued
      have inside := (List.forall_mem_append.1 derived.ne_end).1
      exact ⟨_, viable_of_continued ⟨tree, derived⟩,
        .inl (reportsImpossible_of_rejected moved here.passes inside always)⟩
    | exceeded result _ =>
      rw [result] at failed
      cases failed
    | @faulted passed middle fault _ passes continued answered result =>
      rw [result] at failed
      cases failed
      obtain ⟨rest, _, tree, derived⟩ := continued
      have split : passed ++ middle.current :: rest = passed ++ [middle.current] ++ rest := by simp
      rw [split] at derived
      have inside := (List.forall_mem_append.1 derived.ne_end).1
      exact ⟨_, viable_of_continued ⟨tree, derived⟩,
        .inr (reportsUnreadable_of_faulted moved passes inside answered)⟩
  · next fault feed moved =>
    cases failed
    refine ⟨[], viable_nil, .inr (reportsUnreadable_of_gives .none ?_)⟩
    rw [← (Scanner.feeds_ofSource source).next_eq, moved]

/-- A missing operand is reported at the bracket, though a string that never closes follows. -/
theorem Tree.parse_rejects_first_impossible_of_bracket :
    Tree.parse ⟨2, 0⟩ "(1 +\n) 'a" = .error (.malformed ⟨.mismatched ")" .expression, ⟨2, 0⟩⟩) ∧
    ∃ before : List Lexeme, Viable (before.map Lexeme.token) ∧
      (ReportsImpossible "(1 +\n) 'a" before ⟨.mismatched ")" .expression, ⟨2, 0⟩⟩ ∨
        ReportsUnreadable "(1 +\n) 'a" before ⟨.mismatched ")" .expression, ⟨2, 0⟩⟩) := by
  have failed : Tree.parse ⟨2, 0⟩ "(1 +\n) 'a" =
      .error (.malformed ⟨.mismatched ")" .expression, ⟨2, 0⟩⟩) := by decide +kernel
  exact ⟨failed, Tree.parse_rejects_first_impossible _ _ _ failed⟩

end FieldFormula
